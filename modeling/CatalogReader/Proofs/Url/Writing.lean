/-
What is read of the text that a URL is written as. The parts of a URL that was read keep to the
places of their marks: no authority holds a character that ends it, no path a question mark, and so
on. So each part is found again where it was written, with one exception. A path behind an empty
authority may begin with two slashes, and where these are not written behind two others, what
follows them is taken for the authority.
-/

import CatalogReader.Proofs.Url.Reading
import Mathlib.Data.List.TakeWhile

namespace CatalogReader.Url

open CatalogReader.Text

/-! ### Schemes -/

/-- What a scheme is read as: a small letter and characters of schemes, none of them a capital. -/
structure IsScheme (scheme : List Char) : Prop where
  begins : scheme.head?.any Char.isAlpha = true
  sound : ∀ c ∈ scheme, isSchemeChar c = true
  small : lowerAscii scheme = scheme

theorem toLower_eq_or (c : Char) :
    c.toLower = c ∨ ∃ index : Fin 26, c = Char.ofNat (65 + index) := by
  unfold Char.toLower
  split
  case isTrue capital =>
    have bounds : 65 ≤ c.toNat ∧ c.toNat ≤ 90 := capital
    refine Or.inr ⟨⟨c.toNat - 65, by omega⟩, ?_⟩
    have same : 65 + (c.toNat - 65) = c.toNat := by omega
    exact (Char.ofNat_toNat c).symm.trans (congrArg Char.ofNat same.symm)
  case isFalse => exact Or.inl rfl

theorem toLower_toLower (c : Char) : c.toLower.toLower = c.toLower := by
  have capitals : ∀ index : Fin 26,
      (Char.ofNat (65 + index)).toLower.toLower = (Char.ofNat (65 + index)).toLower := by decide
  rcases toLower_eq_or c with same | ⟨index, rfl⟩
  · rw [same, same]
  · exact capitals index

theorem isAlpha_toLower {c : Char} (letter : c.isAlpha = true) : c.toLower.isAlpha = true := by
  have capitals : ∀ index : Fin 26, (Char.ofNat (65 + index)).toLower.isAlpha = true := by decide
  rcases toLower_eq_or c with same | ⟨index, rfl⟩
  · rw [same]
    exact letter
  · exact capitals index

theorem isSchemeChar_toLower {c : Char} (sound : isSchemeChar c = true) :
    isSchemeChar c.toLower = true := by
  have capitals : ∀ index : Fin 26, isSchemeChar (Char.ofNat (65 + index)).toLower = true := by
    decide
  rcases toLower_eq_or c with same | ⟨index, rfl⟩
  · rw [same]
    exact sound
  · exact capitals index

theorem isSchemeChar_of_isAlpha {c : Char} (letter : c.isAlpha = true) :
    isSchemeChar c = true := by
  unfold isSchemeChar Char.isAlphanum
  rw [letter]
  rfl

/-- A text has a scheme, or all of it follows. -/
theorem cutScheme_cases (text : List Char) :
    cutScheme text = ([], text) ∨ IsScheme (cutScheme text).1 := by
  unfold cutScheme
  split
  case h_1 first others after found =>
    split
    case isTrue sound =>
      obtain ⟨letter, rest⟩ := Bool.and_eq_true_iff.mp sound
      refine Or.inr ⟨isAlpha_toLower letter, fun c member => ?_, ?_⟩
      · obtain ⟨original, among, rfl⟩ := List.mem_map.mp member
        refine isSchemeChar_toLower ?_
        rcases List.mem_cons.mp among with rfl | later
        · exact isSchemeChar_of_isAlpha letter
        · exact List.all_eq_true.mp rest original later
      · unfold lowerAscii
        rw [List.map_map]
        exact List.map_congr_left fun c _ => toLower_toLower c
    case isFalse => exact Or.inl rfl
  case h_2 => exact Or.inl rfl

/-- Characters of a scheme in front of a colon are read in small letters. -/
theorem cutScheme_of_sound {scheme : List Char} (begins : scheme.head?.any Char.isAlpha = true)
    (sound : ∀ c ∈ scheme, isSchemeChar c = true) (rest : List Char) :
    cutScheme (scheme ++ ':' :: rest) = (lowerAscii scheme, rest) := by
  have noColon : ':' ∉ scheme := fun member => by cases sound ':' member
  have cut : cutFirst? ':' (scheme ++ ':' :: rest) = some (scheme, rest) :=
    (cutFirst?_eq_some_iff ':' _ _ _).mpr ⟨rfl, noColon⟩
  unfold cutScheme
  rw [cut]
  cases scheme with
  | nil => cases begins
  | cons first others =>
    exact if_pos (Bool.and_eq_true_iff.mpr ⟨begins,
      List.all_eq_true.mpr fun c member => sound c (List.mem_cons_of_mem _ member)⟩)

/-- A scheme that was read is read as it is. -/
theorem cutScheme_of_isScheme {scheme : List Char} (sound : IsScheme scheme) (rest : List Char) :
    cutScheme (scheme ++ ':' :: rest) = (scheme, rest) := by
  rw [cutScheme_of_sound sound.begins sound.sound, sound.small]

theorem cutScheme_of_slash (rest : List Char) : cutScheme ('/' :: rest) = ([], '/' :: rest) := by
  unfold cutScheme
  rw [cutFirst?, if_neg (by decide)]
  cases cutFirst? ':' rest <;> rfl

/-! ### Cuts -/

/-- A mark that begins the query or the fragment, with what follows it, or nothing. -/
def BeginsMarked (text : List Char) : Prop :=
  text = [] ∨ ∃ mark rest, text = mark :: rest ∧ (mark = '?' ∨ mark = '#')

theorem cutAt_cases (mark : Char) (text : List Char) :
    (mark ∉ text ∧ cutAt mark text = (text, [])) ∨
      ∃ before after, text = before ++ mark :: after ∧ mark ∉ before ∧
        cutAt mark text = (before, after) := by
  by_cases member : mark ∈ text
  · obtain ⟨⟨before, after⟩, found⟩ := Option.ne_none_iff_exists'.mp
      (mt (cutFirst?_eq_none_iff mark text).mp (not_not_intro member))
    obtain ⟨split, absent⟩ := (cutFirst?_eq_some_iff mark _ _ _).mp found
    exact Or.inr ⟨before, after, split, absent, split ▸ cutAt_append_cons absent after⟩
  · exact Or.inl ⟨member, cutAt_of_notMem member⟩

/-- The path stands in front of all marks, and the query in front of the fragment. -/
theorem exists_partsOfRest (rest : List Char) :
    ∃ path query fragment after, partsOfRest rest = (path, query, fragment) ∧
      rest = path ++ after ∧ BeginsMarked after ∧ (∀ c ∈ path, c ≠ '?' ∧ c ≠ '#') ∧
      '#' ∉ query ∧ ∀ c ∈ query ++ fragment, c ∈ after := by
  have unmarked {path : List Char} (noQuery : '?' ∉ path) (noFragment : '#' ∉ path) :
      ∀ c ∈ path, c ≠ '?' ∧ c ≠ '#' :=
    fun c member => ⟨fun same => noQuery (same ▸ member), fun same => noFragment (same ▸ member)⟩
  unfold partsOfRest
  obtain ⟨noFragment, whole⟩ | ⟨before, fragment, rfl, noFragment, cut⟩ := cutAt_cases '#' rest
  · rw [whole]
    obtain ⟨noQuery, alone⟩ | ⟨path, query, rfl, noQuery, cut⟩ := cutAt_cases '?' rest
    · simp only [alone]
      exact ⟨rest, [], [], [], rfl, (List.append_nil _).symm, Or.inl rfl,
        unmarked noQuery noFragment, by simp, by simp⟩
    · simp only [cut]
      simp only [List.mem_append, List.mem_cons, not_or] at noFragment
      exact ⟨path, query, [], '?' :: query, rfl, rfl, Or.inr ⟨_, _, rfl, Or.inl rfl⟩,
        unmarked noQuery noFragment.1, noFragment.2.2, by simp +contextual⟩
  · rw [cut]
    obtain ⟨noQuery, alone⟩ | ⟨path, query, rfl, noQuery, cut⟩ := cutAt_cases '?' before
    · simp only [alone]
      exact ⟨before, [], fragment, '#' :: fragment, rfl, rfl, Or.inr ⟨_, _, rfl, Or.inr rfl⟩,
        unmarked noQuery noFragment, by simp, by simp +contextual⟩
    · simp only [cut]
      simp only [List.mem_append, List.mem_cons, not_or] at noFragment
      refine ⟨path, query, fragment, '?' :: query ++ '#' :: fragment, rfl, by simp,
        Or.inr ⟨_, _, rfl, Or.inl rfl⟩, unmarked noQuery noFragment.1, noFragment.2.2, ?_⟩
      simp only [List.mem_append, List.mem_cons]
      rintro c (inQuery | inFragment)
      · exact Or.inl (Or.inr inQuery)
      · exact Or.inr (Or.inr inFragment)

theorem ended_dropWhile (text : List Char) :
    (text.dropWhile fun c => !endsAuthority c).head?.all endsAuthority = true := by
  have stops := List.head?_dropWhile_not (fun c => !endsAuthority c) text
  cases ended : (text.dropWhile fun c => !endsAuthority c).head? with
  | none => rfl
  | some c =>
    rw [ended] at stops
    simpa using stops

/-- An authority stands behind two slashes and ends at its first mark, or there is none. -/
theorem cutAuthority_cases (text : List Char) :
    cutAuthority text = ([], text) ∨
      ∃ authority rest, text = '/' :: '/' :: (authority ++ rest) ∧
        cutAuthority text = (authority, rest) ∧ (∀ c ∈ authority, endsAuthority c = false) ∧
        rest.head?.all endsAuthority = true := by
  by_cases slashes : ∃ inner, text = '/' :: '/' :: inner
  · obtain ⟨inner, rfl⟩ := slashes
    refine Or.inr ⟨_, _, ?_, cutAuthority_of_slashes inner, fun c member => ?_,
      ended_dropWhile inner⟩
    · rw [List.takeWhile_append_dropWhile]
    · simpa using List.mem_takeWhile_imp member
  · exact Or.inl (cutAuthority_of_other fun inner same => slashes ⟨inner, same⟩)

theorem closed_of_cutAuthority {text authority rest : List Char}
    (cut : cutAuthority text = (authority, rest)) : ∀ c ∈ authority, endsAuthority c = false := by
  rcases cutAuthority_cases text with none | ⟨_, _, _, own, closed, _⟩
  · obtain ⟨rfl, _⟩ := Prod.mk.inj (none.symm.trans cut)
    simp
  · obtain ⟨rfl, _⟩ := Prod.mk.inj (own.symm.trans cut)
    exact closed

theorem mem_of_cutAuthority {text authority rest : List Char}
    (cut : cutAuthority text = (authority, rest)) {c : Char} (member : c ∈ authority ++ rest) :
    c ∈ text := by
  rcases cutAuthority_cases text with none | ⟨_, _, whole, own, _, _⟩
  · obtain ⟨rfl, rfl⟩ := Prod.mk.inj (none.symm.trans cut)
    simpa using member
  · obtain ⟨rfl, rfl⟩ := Prod.mk.inj (own.symm.trans cut)
    rw [whole]
    exact List.mem_cons_of_mem _ (List.mem_cons_of_mem _ member)

/-- Where there is an authority, or two slashes without one, what follows it is ended by a mark. -/
theorem ended_of_cutAuthority {text authority rest : List Char}
    (cut : cutAuthority text = (authority, rest)) :
    (authority = [] ∧ rest = text) ∨ rest.head?.all endsAuthority = true := by
  rcases cutAuthority_cases text with none | ⟨_, _, _, own, _, ended⟩
  · obtain ⟨rfl, rfl⟩ := Prod.mk.inj (none.symm.trans cut)
    exact Or.inl ⟨rfl, rfl⟩
  · obtain ⟨_, rfl⟩ := Prod.mk.inj (own.symm.trans cut)
    exact Or.inr ended

/-- What ends an authority and is no mark of the query or the fragment is a slash. -/
theorem slash_of_ended {path after : List Char} (unmarked : ∀ c ∈ path, c ≠ '?' ∧ c ≠ '#')
    (ended : (path ++ after).head?.all endsAuthority = true) :
    path.head?.all (· == '/') = true := by
  cases path with
  | nil => rfl
  | cons first others =>
    have marks := unmarked first List.mem_cons_self
    simpa [endsAuthority, marks] using ended

/-! ### Parts that keep to their places -/

/-- Whether a character is a tab or breaks a line, and so is never read. -/
def IsBreak (c : Char) : Prop := c = '\t' ∨ c = '\r' ∨ c = '\n'

/-- What holds of the parts of every URL that is read. -/
structure Sound (url : Url) : Prop where
  scheme : url.scheme = [] ∨ IsScheme url.scheme
  authority : ∀ c ∈ url.authority, endsAuthority c = false
  path : ∀ c ∈ url.path, c ≠ '?' ∧ c ≠ '#'
  query : '#' ∉ url.query
  unbroken : ∀ c ∈ url.authority ++ url.path ++ url.query ++ url.fragment, ¬IsBreak c
  /-- Behind an authority a path begins with a slash. -/
  separated : url.authority ≠ [] → url.path.head?.all (· == '/') = true
  /-- Where a path stands first, no scheme is read in it, and it begins with a visible character. -/
  unschemed : url.scheme = [] → url.authority = [] →
    cutScheme url.path = ([], url.path) ∧
      url.path.head?.all (fun c => decide (0x20 < c.toNat)) = true

theorem not_isBreak_of_mem_cleaned {text : List Char} {c : Char} (member : c ∈ cleaned text) :
    ¬IsBreak c := by
  have kept := (List.mem_filter.mp member).2
  simpa [IsBreak, not_or, and_assoc] using kept

theorem visible_head_cleaned (text : List Char) :
    (cleaned text).head?.all (fun c => decide (0x20 < c.toNat)) = true := by
  have stops := List.head?_dropWhile_not (fun c : Char => decide (c.toNat ≤ 0x20)) text
  unfold cleaned
  cases left : text.dropWhile fun c => decide (c.toNat ≤ 0x20) with
  | nil => rfl
  | cons first others =>
    rw [left] at stops
    have visible : 0x20 < first.toNat := by simpa using stops
    have kept : first ≠ '\t' ∧ first ≠ '\r' ∧ first ≠ '\n' := by
      refine ⟨?_, ?_, ?_⟩ <;> rintro rfl <;> exact absurd visible (by decide)
    show (unbroken (first :: others)).head?.all _ = true
    rw [unbroken_cons kept]
    exact decide_eq_true visible

/-- A path in which no scheme is read, whatever follows it. -/
theorem cutScheme_of_append {path after : List Char} (marked : BeginsMarked after)
    (unschemed : cutScheme (path ++ after) = ([], path ++ after)) :
    cutScheme path = ([], path) := by
  rcases marked with rfl | ⟨mark, rest, rfl, marks⟩
  · rwa [List.append_nil] at unschemed
  · have apart : isSchemeChar mark = false ∧ mark ≠ ':' := by
      rcases marks with rfl | rfl <;> decide
    rw [cutScheme_append_cons apart.1 apart.2] at unschemed
    refine (cutScheme_cases path).resolve_right fun sound => ?_
    rw [congrArg Prod.fst unschemed] at sound
    exact absurd sound.begins (by simp)

/-- A path that begins with a slash, or an empty one, stands for itself in front of all else. -/
theorem unschemed_of_slash {path : List Char} (slash : path.head?.all (· == '/') = true) :
    cutScheme path = ([], path) ∧ path.head?.all (fun c => decide (0x20 < c.toNat)) = true := by
  cases path with
  | nil => exact ⟨rfl, rfl⟩
  | cons first others =>
    obtain rfl : first = '/' := by simpa using slash
    exact ⟨cutScheme_of_slash others, rfl⟩

/-- So does a path in front of a text that has neither scheme nor authority. -/
theorem unschemed_of_cleaned {text path after : List Char} (marked : BeginsMarked after)
    (cut : cutScheme (cleaned text) = ([], path ++ after)) :
    cutScheme path = ([], path) ∧ path.head?.all (fun c => decide (0x20 < c.toNat)) = true := by
  have whole : path ++ after = cleaned text := by
    rcases cutScheme_cases (cleaned text) with none | sound
    · exact congrArg Prod.snd (cut.symm.trans none)
    · rw [cut] at sound
      exact absurd sound.begins (by simp)
  have visible := visible_head_cleaned text
  rw [← whole] at cut visible
  refine ⟨cutScheme_of_append marked cut, ?_⟩
  cases path with
  | nil => rfl
  | cons first others => exact visible

/-- Every URL that is read has parts that keep to their places. -/
theorem sound_of_ofText {text : List Char} {url : Url} (read : ofText text = .ok url) :
    url.Sound := by
  have isUrl := eq_of_ofText read
  have schemed := cutScheme_cases (cleaned text)
  have readable {c : Char} (member : c ∈ (cutScheme (cleaned text)).2) : ¬IsBreak c :=
    not_isBreak_of_mem_cleaned (mem_of_mem_afterScheme member)
  generalize schemeCut : cutScheme (cleaned text) = parts at isUrl schemed readable
  obtain ⟨scheme, afterScheme⟩ := parts
  generalize authorityCut : cutAuthority afterScheme = parts at isUrl
  obtain ⟨authority, rest⟩ := parts
  obtain ⟨path, query, fragment, after, parts, rfl, marked, unmarked, queryClosed, inAfter⟩ :=
    exists_partsOfRest rest
  simp only [parts] at isUrl
  subst isUrl
  have ended : (authority = [] ∧ path ++ after = afterScheme) ∨
      path.head?.all (· == '/') = true :=
    (ended_of_cutAuthority authorityCut).imp_right (slash_of_ended unmarked)
  refine ⟨?_, closed_of_cutAuthority authorityCut, unmarked, queryClosed, ?_, ?_, ?_⟩
  · exact schemed.imp (congrArg Prod.fst) id
  · intro c member
    refine readable (mem_of_cutAuthority authorityCut ?_)
    have later := inAfter c
    simp only [List.mem_append] at member later ⊢
    tauto
  · intro filled
    exact ended.resolve_left fun empty => filled empty.1
  · rintro rfl rfl
    rcases ended with ⟨_, rfl⟩ | slash
    · exact unschemed_of_cleaned marked schemeCut
    · exact unschemed_of_slash slash

/-! ### What is written -/

theorem writesAuthority_of_filled {url : Url} (filled : url.authority ≠ []) :
    url.writesAuthority = true := by
  simp [writesAuthority, filled]

theorem location_of_written {url : Url} (written : url.writesAuthority = true)
    (separated : url.path.head?.all (· == '/') = true) :
    url.location = '/' :: '/' :: (url.authority ++ url.path) := by
  have kept : (url.path.isEmpty || url.path.head? == some '/') = true := by
    cases path : url.path with
    | nil => rfl
    | cons first others => simpa [path] using separated
  unfold location
  rw [if_pos written, if_pos kept]
  rfl

theorem location_of_unwritten {url : Url} (unwritten : url.writesAuthority = false) :
    url.location = url.path := by
  unfold location
  rw [unwritten]
  rfl

theorem writesAuthority_of_authority {url : Url} (unwritten : url.writesAuthority = false) :
    url.authority = [] := by
  by_contra filled
  simp [writesAuthority, filled] at unwritten

/-- The query and the fragment behind their marks. -/
def behindPath (url : Url) : List Char :=
  marked '?' url.query ++ marked '#' url.fragment

theorem beginsMarked_behindPath (url : Url) : BeginsMarked url.behindPath := by
  unfold behindPath
  cases url.query with
  | cons first others => exact Or.inr ⟨'?', _, rfl, Or.inl rfl⟩
  | nil =>
    cases url.fragment with
    | cons first others => exact Or.inr ⟨'#', _, rfl, Or.inr rfl⟩
    | nil => exact Or.inl rfl

theorem toText_of_unschemed {url : Url} (none : url.scheme = []) :
    url.toText = url.location ++ url.behindPath := by
  unfold toText
  rw [none, List.append_assoc]
  rfl

theorem toText_of_scheme {url : Url} (scheme : IsScheme url.scheme) :
    url.toText = url.scheme ++ ':' :: (url.location ++ url.behindPath) := by
  have filled : url.scheme.isEmpty = false := by
    have begins := scheme.begins
    cases shape : url.scheme with
    | nil => simp [shape] at begins
    | cons first others => rfl
  unfold toText behindPath
  rw [filled]
  simp

/-- An authority is written behind two slashes, and the path, the query and the fragment behind it.
-/
theorem toText_of_authority {url : Url} (sound : url.Sound) (scheme : IsScheme url.scheme)
    (filled : url.authority ≠ []) :
    url.toText =
      url.scheme ++ ':' :: '/' :: '/' :: (url.authority ++ (url.path ++ url.behindPath)) := by
  rw [toText_of_scheme scheme,
    location_of_written (writesAuthority_of_filled filled) (sound.separated filled)]
  simp

/-- What is written behind an authority begins with a mark that ends it. -/
theorem ended_of_authority {url : Url} (sound : url.Sound) (filled : url.authority ≠ []) :
    (url.path ++ url.behindPath).head?.all endsAuthority = true := by
  have slash := sound.separated filled
  cases path : url.path with
  | nil =>
    rcases beginsMarked_behindPath url with empty | ⟨mark, rest, marked, rfl | rfl⟩
    · rw [empty]
      rfl
    · rw [marked]
      rfl
    · rw [marked]
      rfl
  | cons first others =>
    rw [path] at slash
    obtain rfl : first = '/' := by simpa using slash
    rfl

/-- The query and the fragment are found again behind their marks, and empty ones without. -/
theorem partsOfRest_marked {path query : List Char} (unmarked : ∀ c ∈ path, c ≠ '?' ∧ c ≠ '#')
    (closed : '#' ∉ query) (fragment : List Char) :
    partsOfRest (path ++ (marked '?' query ++ marked '#' fragment)) = (path, query, fragment) := by
  have noQuery : '?' ∉ path := fun member => (unmarked _ member).1 rfl
  have noFragment : '#' ∉ path := fun member => (unmarked _ member).2 rfl
  cases query with
  | cons first others =>
    have ended : marked '#' fragment = [] ∨ ∃ rest, marked '#' fragment = '#' :: rest := by
      cases fragment with
      | nil => exact Or.inl rfl
      | cons => exact Or.inr ⟨_, rfl⟩
    have back : (marked '#' fragment).tail = fragment := by cases fragment <;> rfl
    exact (partsOfRest_of_query unmarked closed ended).trans (by rw [back])
  | nil =>
    have cutFragment : cutAt '#' (path ++ (marked '?' [] ++ marked '#' fragment)) =
        (path, fragment) := by
      cases fragment with
      | nil =>
        exact (congrArg (cutAt '#') (List.append_nil path)).trans (cutAt_of_notMem noFragment)
      | cons first others => exact cutAt_append_cons noFragment (first :: others)
    unfold partsOfRest
    rw [cutFragment]
    simp only [cutAt_of_notMem noQuery]

/-! ### Reading it back -/

/-- What is left to read of the text of a URL behind its scheme. -/
theorem cutScheme_toText {url : Url} (sound : url.Sound) :
    cutScheme url.toText = (url.scheme, url.location ++ url.behindPath) := by
  rcases sound.scheme with none | scheme
  · rw [toText_of_unschemed none, none]
    by_cases written : url.writesAuthority = true
    · unfold location
      rw [if_pos written]
      exact cutScheme_of_slash _
    · have unwritten := Bool.eq_false_iff.mpr written
      obtain ⟨unschemed, _⟩ := sound.unschemed none (writesAuthority_of_authority unwritten)
      rw [location_of_unwritten unwritten]
      rcases beginsMarked_behindPath url with empty | ⟨mark, rest, filled, marks⟩
      · rw [empty, List.append_nil, unschemed]
      · have apart : isSchemeChar mark = false ∧ mark ≠ ':' := by
          rcases marks with rfl | rfl <;> decide
        rw [filled, cutScheme_append_cons apart.1 apart.2, unschemed]
  · rw [toText_of_scheme scheme]
    exact cutScheme_of_isScheme scheme _

theorem visible_head_toText {url : Url} (sound : url.Sound) :
    url.toText.head?.all (fun c => decide (0x20 < c.toNat)) = true := by
  rcases sound.scheme with none | scheme
  · rw [toText_of_unschemed none]
    by_cases written : url.writesAuthority = true
    · unfold location
      rw [if_pos written]
      rfl
    · have unwritten := Bool.eq_false_iff.mpr written
      obtain ⟨_, visible⟩ := sound.unschemed none (writesAuthority_of_authority unwritten)
      rw [location_of_unwritten unwritten]
      cases path : url.path with
      | cons first others => simpa [path] using visible
      | nil =>
        rcases beginsMarked_behindPath url with empty | ⟨mark, rest, filled, rfl | rfl⟩
        · simp [empty]
        · simp [filled]
        · simp [filled]
  · have begins := scheme.begins
    rw [toText_of_scheme scheme]
    cases shape : url.scheme with
    | nil => simp [shape] at begins
    | cons first others =>
      have letter := visible_of_isSchemeChar (scheme.sound first (by simp [shape]))
      simpa using letter

theorem mem_of_mem_location {url : Url} {c : Char} (member : c ∈ url.location) :
    c = '/' ∨ c ∈ url.authority ∨ c ∈ url.path := by
  unfold location at member
  split at member
  · dsimp only at member
    split at member
    all_goals
      simp only [List.cons_append, List.mem_cons, List.mem_append] at member
      tauto
  · exact Or.inr (Or.inr member)

theorem mem_of_mem_marked {mark c : Char} {part : List Char} (member : c ∈ marked mark part) :
    c = mark ∨ c ∈ part := by
  unfold marked at member
  split at member
  · cases member
  · exact List.mem_cons.mp member

theorem not_isBreak_of_isSchemeChar {c : Char} (sound : isSchemeChar c = true) : ¬IsBreak c := by
  rintro (rfl | rfl | rfl) <;> cases sound

theorem not_isBreak_of_mem_toText {url : Url} (sound : url.Sound) {c : Char}
    (member : c ∈ url.toText) : ¬IsBreak c := by
  have later : c ∈ url.location ++ url.behindPath → ¬IsBreak c := by
    have parts := sound.unbroken c
    have marks : ¬IsBreak '/' ∧ ¬IsBreak '?' ∧ ¬IsBreak '#' := by simp [IsBreak]
    unfold behindPath
    simp only [List.mem_append] at parts ⊢
    rintro (inLocation | inQuery | inFragment)
    · rcases mem_of_mem_location inLocation with rfl | inAuthority | inPath
      · exact marks.1
      · exact parts (by tauto)
      · exact parts (by tauto)
    · rcases mem_of_mem_marked inQuery with rfl | inQuery
      · exact marks.2.1
      · exact parts (by tauto)
    · rcases mem_of_mem_marked inFragment with rfl | inFragment
      · exact marks.2.2
      · exact parts (by tauto)
  rcases sound.scheme with none | scheme
  · rw [toText_of_unschemed none] at member
    exact later member
  · rw [toText_of_scheme scheme] at member
    rcases List.mem_append.mp member with inScheme | member
    · exact not_isBreak_of_isSchemeChar (scheme.sound c inScheme)
    · rcases List.mem_cons.mp member with rfl | member
      · simp [IsBreak]
      · exact later member

theorem cleaned_eq_self {text : List Char}
    (visible : text.head?.all (fun c => decide (0x20 < c.toNat)) = true)
    (unbroken : ∀ c ∈ text, ¬IsBreak c) : cleaned text = text := by
  have kept : text.dropWhile (fun c => decide (c.toNat ≤ 0x20)) = text := by
    cases text with
    | nil => rfl
    | cons first others =>
      have above : 0x20 < first.toNat := by simpa using visible
      exact List.dropWhile_cons_of_neg (by simpa using above)
  unfold cleaned
  rw [kept]
  refine List.filter_eq_self.mpr fun c member => ?_
  have read := unbroken c member
  simpa [IsBreak, not_or, and_assoc] using read

/-- Nothing that is written is left out when it is read. -/
theorem cleaned_toText {url : Url} (sound : url.Sound) : cleaned url.toText = url.toText :=
  cleaned_eq_self (visible_head_toText sound) fun _ => not_isBreak_of_mem_toText sound

/-- A text is read by cutting it, and then its authority is looked at. -/
theorem ofText_eq (text : List Char) :
    ofText text =
      let scheme := cutScheme (cleaned text)
      let authority := cutAuthority scheme.2
      let parts := partsOfRest authority.2
      (checkAuthority authority.1).map fun _ =>
        ⟨scheme.1, authority.1, parts.1, parts.2.1, parts.2.2⟩ := by
  unfold ofText partsOfRest
  dsimp only
  cases checkAuthority (cutAuthority (cutScheme (cleaned text)).2).1 <;> rfl

/-- The URL that is read of the text of a URL, if its authority is accepted. -/
def reread (url : Url) : Url :=
  { url with
    authority := (cutAuthority url.location).1
    path := (cutAuthority url.location).2 }

theorem cutAuthority_written (url : Url) :
    cutAuthority (url.location ++ url.behindPath) =
      (url.reread.authority, url.reread.path ++ url.behindPath) := by
  rcases beginsMarked_behindPath url with empty | ⟨mark, rest, filled, marks⟩
  · rw [empty, List.append_nil, List.append_nil]
    rfl
  · have apart : endsAuthority mark = true ∧ mark ≠ '/' := by
      rcases marks with rfl | rfl <;> decide
    rw [filled, cutAuthority_append_cons apart.1 apart.2]
    rfl

/-- The text of a URL that was read is read again but for its location. -/
theorem ofText_toText {url : Url} (sound : url.Sound) :
    ofText url.toText = (checkAuthority url.reread.authority).map fun _ => url.reread := by
  have unmarked : ∀ c ∈ url.reread.path, c ≠ '?' ∧ c ≠ '#' := by
    intro c member
    rcases mem_of_mem_location (mem_of_mem_afterAuthority member) with rfl | inside | inside
    · decide
    · have closed := sound.authority c inside
      refine ⟨?_, ?_⟩ <;> rintro rfl <;> cases closed
    · exact sound.path c inside
  rw [ofText_eq, cleaned_toText sound, cutScheme_toText sound]
  dsimp only
  rw [cutAuthority_written]
  dsimp only
  unfold behindPath
  rw [partsOfRest_marked unmarked sound.query]
  rfl

/-- A location that is written behind an authority is read as it was written. -/
theorem reread_of_authority {url : Url} (sound : url.Sound) (filled : url.authority ≠ []) :
    url.reread = url := by
  have ended : url.path.head?.all endsAuthority = true := by
    have slash := sound.separated filled
    cases path : url.path with
    | nil => rfl
    | cons first others =>
      rw [path] at slash
      obtain rfl : first = '/' := by simpa using slash
      rfl
  unfold reread
  rw [location_of_written (writesAuthority_of_filled filled) (sound.separated filled),
    cutAuthority_of_closed sound.authority ended]

/-- Under some schemes an empty authority is written, and a slash is put in front of the path. -/
theorem location_of_emptyWritten {url : Url} (empty : url.authority = [])
    (written : url.writesAuthority = true) :
    ∃ path, url.location = '/' :: '/' :: path ∧ path.head?.all (· == '/') = true ∧
      path.take 2 ≠ ['/', '/'] := by
  have single : url.path.take 2 ≠ ['/', '/'] := by
    have both := written
    simp only [writesAuthority, empty, List.isEmpty_nil, Bool.not_true, Bool.false_or,
      Bool.and_eq_true, bne_iff_ne] at both
    exact both.2
  unfold location
  rw [if_pos written, empty]
  by_cases kept : (url.path.isEmpty || url.path.head? == some '/') = true
  · refine ⟨url.path, by rw [if_pos kept]; rfl, ?_, single⟩
    cases path : url.path with
    | nil => rfl
    | cons first others => simpa [path] using kept
  · refine ⟨'/' :: url.path, by rw [if_neg kept]; rfl, rfl, ?_⟩
    cases path : url.path with
    | nil => simp
    | cons first others => simpa [path] using kept

/-- Without an authority a location keeps its place too, if its path does not begin with two
slashes. Under some schemes these are written in front of it, and then it begins with a third one.
-/
theorem reread_of_single {url : Url} (empty : url.authority = [])
    (single : url.path.take 2 ≠ ['/', '/']) :
    url.reread.authority = [] ∧ url.reread.location = url.location := by
  by_cases written : url.writesAuthority = true
  · obtain ⟨path, location, slash, stillSingle⟩ := location_of_emptyWritten empty written
    have ended : path.head?.all endsAuthority = true := by
      cases path with
      | nil => rfl
      | cons first others =>
        obtain rfl : first = '/' := by simpa using slash
        rfl
    have same : url.reread = { url with authority := [], path } := by
      unfold reread
      rw [location]
      exact congrArg (fun parts : List Char × List Char =>
        { url with authority := parts.1, path := parts.2 })
        (cutAuthority_of_closed (fun c member => absurd member List.not_mem_nil) ended)
    have stillWritten : ({ url with authority := [], path } : Url).writesAuthority = true := by
      simp only [writesAuthority, empty, List.isEmpty_nil, Bool.not_true, Bool.false_or,
        Bool.and_eq_true, bne_iff_ne] at written ⊢
      exact ⟨written.1, stillSingle⟩
    rw [same]
    exact ⟨rfl, (location_of_written stillWritten slash).trans location.symm⟩
  · have unwritten := Bool.eq_false_iff.mpr written
    have other : ∀ rest, url.path ≠ '/' :: '/' :: rest := by
      intro rest same
      exact single (by rw [same]; rfl)
    have same : url.reread = url := by
      unfold reread
      rw [location_of_unwritten unwritten, cutAuthority_of_other other, ← empty]
    rw [same]
    exact ⟨empty, rfl⟩

/-- A path that begins with two slashes behind an empty authority is taken for a location, which is
written as it was if its authority is. -/
theorem reread_of_double {url : Url} (sound : url.Sound) (empty : url.authority = [])
    (double : url.path.take 2 = ['/', '/']) :
    url.reread.location = url.location ↔ url.reread.writesAuthority = true := by
  have unwritten : url.writesAuthority = false := by simp [writesAuthority, empty, double]
  obtain ⟨inner, path⟩ : ∃ inner, url.path = '/' :: '/' :: inner := by
    match shape : url.path, double with
    | first :: second :: inner, double =>
      obtain ⟨rfl, rfl⟩ : first = '/' ∧ second = '/' := by simpa using double
      exact ⟨inner, rfl⟩
  have location : url.location = '/' :: '/' :: (url.reread.authority ++ url.reread.path) := by
    unfold reread
    rw [location_of_unwritten unwritten, path, cutAuthority_of_slashes,
      List.takeWhile_append_dropWhile]
  have slash : url.reread.path.head?.all (· == '/') = true := by
    unfold reread
    rw [location_of_unwritten unwritten, path, cutAuthority_of_slashes]
    have unmarked : ∀ c ∈ inner.dropWhile fun c => !endsAuthority c, c ≠ '?' ∧ c ≠ '#' := by
      intro c member
      refine sound.path c ?_
      rw [path]
      exact List.mem_cons_of_mem _ (List.mem_cons_of_mem _
        ((List.dropWhile_sublist _).subset member))
    refine @slash_of_ended _ [] unmarked ?_
    rw [List.append_nil]
    exact ended_dropWhile inner
  constructor
  · intro same
    by_contra stillUnwritten
    rw [location_of_unwritten (Bool.eq_false_iff.mpr stillUnwritten), location] at same
    have lengths := congrArg List.length same
    simp only [List.length_cons, List.length_append] at lengths
    omega
  · intro written
    rw [location_of_written written slash, location]

end CatalogReader.Url
