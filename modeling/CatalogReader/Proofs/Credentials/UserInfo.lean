/-
URLs that are written with a password between a colon and an at sign. However the text in front of
the two slashes is read, the authority either holds the password whole, with the rest of it around,
or it does not depend on the password at all.
-/

import CatalogReader.Proofs.Url.Masking

namespace CatalogReader.Url

open CatalogReader.Text

/-- The text of a URL with a password in its user information. -/
def withPassword (scheme user password rest : List Char) : List Char :=
  scheme ++ ':' :: '/' :: '/' :: (user ++ ':' :: (password ++ '@' :: rest))

/-- The authority that is cut from a text. -/
def authorityOf (text : List Char) : List Char :=
  (cutAuthority (cutScheme (cleaned text)).2).1

/-- A text is refused for its authority only. -/
theorem ofText_eq_error_iff (text : List Char) (fault : Fault) :
    ofText text = .error fault ↔ checkAuthority (authorityOf text) = .error fault := by
  rw [ofText_eq]
  unfold authorityOf
  dsimp only
  cases checkAuthority (cutAuthority (cutScheme (cleaned text)).2).1 <;> simp [Except.map]

/-! ### In front of the authority -/

/-- What is left behind a scheme is all of the text, or what follows its first colon. -/
theorem afterScheme_cases (text : List Char) :
    (cutScheme text).2 = text ∨
      ∃ before, ':' ∉ before ∧ text = before ++ ':' :: (cutScheme text).2 := by
  unfold cutScheme
  split
  case h_1 first others after found =>
    split
    · obtain ⟨whole, absent⟩ := (cutFirst?_eq_some_iff ':' _ _ _).mp found
      exact Or.inr ⟨first :: others, absent, whole⟩
    · exact Or.inl rfl
  case h_2 => exact Or.inl rfl

theorem afterScheme_of_slashes (front : List Char) :
    ∃ before, (cutScheme (front ++ [':', '/', '/'])).2 = before ++ ['/', '/'] := by
  obtain whole | ⟨before, absent, whole⟩ := afterScheme_cases (front ++ [':', '/', '/'])
  · exact ⟨front ++ [':'], by rw [whole]; simp⟩
  · generalize (cutScheme (front ++ [':', '/', '/'])).2 = after at whole
    rcases List.append_eq_append_iff.mp whole with ⟨middle, rfl, split⟩ | ⟨middle, rfl, split⟩
    · cases middle with
      | nil => exact ⟨[], by simpa using split.symm⟩
      | cons first others =>
        obtain ⟨rfl, _⟩ := List.cons.inj split
        simp at absent
    · cases middle with
      | nil => exact ⟨[], by simpa using split⟩
      | cons first others =>
        obtain ⟨_, rfl⟩ := List.cons.inj split
        exact ⟨others ++ [':'], by simp⟩

/-- Two slashes behind a colon are left behind the scheme, with all that follows them. -/
theorem exists_afterScheme (scheme : List Char) :
    ∃ before, ∀ rest, (cutScheme (cleaned (scheme ++ ':' :: '/' :: '/' :: rest))).2 =
      before ++ '/' :: '/' :: unbroken rest := by
  have front : cleaned (scheme ++ [':', '/', '/']) = cleaned scheme ++ [':', '/', '/'] :=
    cleaned_append_cons (by decide) scheme ['/', '/']
  have slash : '/' ∈ cleaned (scheme ++ [':', '/', '/']) := by simp [front]
  obtain ⟨before, after⟩ := afterScheme_of_slashes (cleaned scheme)
  refine ⟨before, fun rest => ?_⟩
  have whole : scheme ++ ':' :: '/' :: '/' :: rest = scheme ++ [':', '/', '/'] ++ rest := by simp
  rw [whole, cleaned_append (List.ne_nil_of_mem slash), cutScheme_append slash (by decide)
    (by decide), front, after]
  simp

/-- A text whose third character or a later one is a slash has an authority that ends there. -/
theorem cutAuthority_of_laterSlash (first second : Char) (middle : List Char) :
    ∃ authority, ∀ rest, (cutAuthority (first :: second :: (middle ++ '/' :: rest))).1 =
      authority := by
  by_cases slashes : first = '/' ∧ second = '/'
  · obtain ⟨rfl, rfl⟩ := slashes
    refine ⟨middle.takeWhile fun c => !endsAuthority c, fun rest => ?_⟩
    rw [cutAuthority_of_slashes]
    exact takeWhile_append_stop rfl middle rest
  · refine ⟨[], fun rest => congrArg Prod.fst (cutAuthority_of_other fun inner same => slashes ?_)⟩
    simp only [List.cons.injEq] at same
    exact ⟨same.1, same.2.1⟩

/-- The authority begins behind the two slashes, or it has ended before them. -/
theorem authorityOf_of_slashes (scheme : List Char) :
    (∃ authority, ∀ rest, authorityOf (scheme ++ ':' :: '/' :: '/' :: rest) = authority) ∨
      ∀ rest, authorityOf (scheme ++ ':' :: '/' :: '/' :: rest) =
        (unbroken rest).takeWhile fun c => !endsAuthority c := by
  obtain ⟨before, after⟩ := exists_afterScheme scheme
  unfold authorityOf
  simp only [after]
  match before with
  | [] => exact Or.inr fun rest => congrArg Prod.fst (cutAuthority_of_slashes _)
  | [first] =>
    obtain ⟨authority, same⟩ := cutAuthority_of_laterSlash first '/' []
    exact Or.inl ⟨authority, fun rest => same (unbroken rest)⟩
  | first :: second :: others =>
    obtain ⟨authority, same⟩ := cutAuthority_of_laterSlash first second others
    exact Or.inl ⟨authority, fun rest => same ('/' :: unbroken rest)⟩

/-- Behind a scheme that is written as one the authority begins. -/
theorem cutScheme_of_written {scheme : List Char} (begins : scheme.head?.any Char.isAlpha = true)
    (sound : ∀ c ∈ scheme, isSchemeChar c = true) (rest : List Char) :
    cutScheme (cleaned (scheme ++ ':' :: '/' :: '/' :: rest)) =
      (lowerAscii scheme, '/' :: '/' :: unbroken rest) := by
  have visible := cleaned_of_visible fun c member => visible_of_isSchemeChar (sound c member)
  rw [cleaned_append_cons (by decide), visible, unbroken_cons (by decide),
    unbroken_cons (by decide), unbroken_cons (by decide), cutScheme_of_sound begins sound]

theorem authorityOf_of_written {scheme : List Char} (begins : scheme.head?.any Char.isAlpha = true)
    (sound : ∀ c ∈ scheme, isSchemeChar c = true) (rest : List Char) :
    authorityOf (scheme ++ ':' :: '/' :: '/' :: rest) =
      (unbroken rest).takeWhile fun c => !endsAuthority c := by
  unfold authorityOf
  rw [cutScheme_of_written begins sound]
  exact congrArg Prod.fst (cutAuthority_of_slashes _)

/-! ### Around a password -/

theorem inside_of_closed {text : List Char} (closed : ∀ c ∈ text, c ≠ '/' ∧ c ≠ '?' ∧ c ≠ '#') :
    ∀ c ∈ text, endsAuthority c = false :=
  fun c member => by simp [endsAuthority, closed c member]

/-- An authority that begins behind the two slashes holds a password whole. -/
theorem exists_host {scheme user : List Char}
    (begins : ∀ rest, authorityOf (scheme ++ ':' :: '/' :: '/' :: rest) =
      (unbroken rest).takeWhile fun c => !endsAuthority c)
    (closed : ∀ c ∈ unbroken user, endsAuthority c = false) (rest : List Char) :
    ∃ host, ∀ password, (∀ c ∈ password, endsAuthority c = false) →
      authorityOf (withPassword scheme user password rest) =
        unbroken user ++ ':' :: (unbroken password ++ '@' :: host) := by
  refine ⟨(unbroken rest).takeWhile fun c => !endsAuthority c, fun password inside => ?_⟩
  have userInside : ∀ c ∈ unbroken user, (!endsAuthority c) = true :=
    fun c member => by simp [closed c member]
  have passwordInside : ∀ c ∈ unbroken password, (!endsAuthority c) = true :=
    fun c member => by simp [inside c (mem_of_mem_unbroken member)]
  unfold withPassword
  rw [begins, unbroken_append, unbroken_cons (by decide), unbroken_append,
    unbroken_cons (by decide), List.takeWhile_append_of_pos userInside,
    List.takeWhile_cons_of_pos rfl, List.takeWhile_append_of_pos passwordInside,
    List.takeWhile_cons_of_pos rfl]

/-- However a URL is written, its authority holds the password whole or does not depend on it. -/
theorem authorityOf_withPassword (scheme user rest : List Char) :
    (∃ authority, ∀ password, authorityOf (withPassword scheme user password rest) = authority) ∨
      ∃ host, ∀ password, (∀ c ∈ password, endsAuthority c = false) →
        authorityOf (withPassword scheme user password rest) =
          unbroken user ++ ':' :: (unbroken password ++ '@' :: host) := by
  obtain ⟨authority, same⟩ | begins := authorityOf_of_slashes scheme
  · exact Or.inl ⟨authority, fun password => same _⟩
  by_cases closed : ∀ c ∈ unbroken user, endsAuthority c = false
  · exact Or.inr (exists_host begins closed rest)
  · obtain ⟨c, member, ends⟩ : ∃ c ∈ unbroken user, (!endsAuthority c) = false := by
      simpa using closed
    obtain ⟨before, after, split⟩ := List.append_of_mem member
    refine Or.inl ⟨before.takeWhile fun c => !endsAuthority c, fun password => ?_⟩
    unfold withPassword
    rw [begins, unbroken_append, split, List.append_assoc, List.cons_append]
    exact takeWhile_append_stop ends before _

end CatalogReader.Url
