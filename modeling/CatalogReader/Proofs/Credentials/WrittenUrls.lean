/-
URLs written out part by part around two secrets: the password of the user information, and the
value of one field of the query whose name is read as `password`. A secret may hold anything but the
characters that end its place in the text, so it may look like another part of the URL: it may hold
at signs, colons, brackets, escapes, and characters that are not read at all. However that is, the
cuts that the reading makes fall outside of both secrets, and what is left of the URL when they are
masked does not depend on them.
-/

import CatalogReader.Proofs.Credentials.Alike
import CatalogReader.Proofs.Url.Decoding

namespace CatalogReader.Url

open CatalogReader.Text

/-! ### Names that are read as `password` -/

/-- A name that is read as `password` holds nothing that is not read. -/
theorem unbroken_of_password {name : List Char} (password : decodeText name = passwordName) :
    unbroken name = name := by
  have absent {c : Char} (itself : StandsForItself c) (other : c ∉ passwordName) : c ∉ name :=
    fun member => other (password ▸ mem_decodeText itself member)
  refine List.filter_eq_self.mpr fun c member => ?_
  have kept : c ≠ '\t' ∧ c ≠ '\r' ∧ c ≠ '\n' := by
    refine ⟨?_, ?_, ?_⟩ <;> rintro rfl
    all_goals exact absent ⟨by decide, by decide, by decide⟩ (by decide) member
  simp [kept]

/-! ### Surroundings -/

/-- The parts of a URL around a password in its user information and a password in its query. -/
structure Surroundings where
  scheme : List Char
  user : List Char
  host : List Char
  path : List Char
  /-- The pieces of the query in front of the one that holds a password. -/
  before : List (List Char)
  name : List Char
  /-- The pieces of the query behind the one that holds a password. -/
  after : List (List Char)
  fragment : Option (List Char)
  schemeBegins : scheme.head?.any Char.isAlpha = true
  schemeSound : ∀ c ∈ scheme, isSchemeChar c = true
  userClosed : ∀ c ∈ user, c ≠ '/' ∧ c ≠ '?' ∧ c ≠ '#'
  hostClosed : ∀ c ∈ host, c ≠ '@' ∧ c ≠ '/' ∧ c ≠ '?' ∧ c ≠ '#'
  pathBegins : path = [] ∨ path.head? = some '/'
  pathClosed : ∀ c ∈ path, c ≠ '?' ∧ c ≠ '#'
  piecesClosed : ∀ piece ∈ before ++ after, ∀ c ∈ piece, c ≠ '&' ∧ c ≠ '#'
  nameClosed : ∀ c ∈ name, c ≠ '&' ∧ c ≠ '#' ∧ c ≠ '='
  nameRead : decodeText name = passwordName

namespace Surroundings

variable (around : Surroundings)

/-- The scheme and the two slashes in front of the authority. -/
def front : List Char :=
  around.scheme ++ [':', '/', '/']

/-- The authority with a password. -/
def authority (password : List Char) : List Char :=
  around.user ++ ':' :: (password ++ '@' :: around.host)

/-- The query with a password in one of its pieces. -/
def query (value : List Char) : List Char :=
  join '&' (around.before ++ (around.name ++ '=' :: value) :: around.after)

/-- The fragment behind its mark, if there is one. -/
def tail : List Char :=
  match around.fragment with
  | none => []
  | some fragment => '#' :: fragment

/-- What follows the authority. -/
def rest (value : List Char) : List Char :=
  around.path ++ '?' :: (around.query value ++ around.tail)

/-- The URL with two passwords. -/
def text (password value : List Char) : List Char :=
  around.front ++ around.authority password ++ around.rest value

/-- The scheme is read as it is written, and two slashes are left. -/
theorem cutScheme_front :
    (cutScheme (cleaned around.front)).2 = ['/', '/'] := by
  have visible : ∀ c ∈ around.front, ¬c.toNat ≤ 0x20 :=
    List.forall_mem_append.mpr
      ⟨fun c member => visible_of_isSchemeChar (around.schemeSound c member), by simp⟩
  have noColon : ':' ∉ around.scheme := fun member => by
    cases around.schemeSound ':' member
  have cut : cutFirst? ':' around.front = some (around.scheme, ['/', '/']) :=
    (cutFirst?_eq_some_iff ':' _ _ _).mpr ⟨rfl, noColon⟩
  have begins := around.schemeBegins
  have sound := around.schemeSound
  rw [cleaned_of_visible visible]
  unfold cutScheme
  rw [cut]
  cases scheme : around.scheme with
  | nil =>
    rw [scheme] at begins
    cases begins
  | cons first others =>
    rw [scheme] at begins sound
    have letters : (first.isAlpha && others.all isSchemeChar) = true :=
      Bool.and_eq_true_iff.mpr ⟨begins,
        List.all_eq_true.mpr fun c member => sound c (List.mem_cons_of_mem _ member)⟩
    exact congrArg Prod.snd (if_pos letters)

/-- The authority is read whole, whatever the password holds. -/
theorem authority_closed {password : List Char}
    (closed : ∀ c ∈ password, c ≠ '/' ∧ c ≠ '?' ∧ c ≠ '#') :
    ∀ c ∈ around.authority password, endsAuthority c = false := by
  have inside {c : Char} (other : c ≠ '/' ∧ c ≠ '?' ∧ c ≠ '#') : endsAuthority c = false := by
    simp [endsAuthority, other]
  intro c member
  rcases List.mem_append.mp member with user | later
  · exact inside (around.userClosed c user)
  · rcases List.mem_cons.mp later with rfl | later
    · rfl
    · rcases List.mem_append.mp later with own | later
      · exact inside (closed c own)
      · rcases List.mem_cons.mp later with rfl | host
        · rfl
        · exact inside (around.hostClosed c host).2

theorem pieces_closed {value : List Char} (whole : ∀ c ∈ value, c ≠ '&' ∧ c ≠ '#') :
    ∀ piece ∈ around.before ++ (around.name ++ '=' :: value) :: around.after,
      ∀ c ∈ piece, c ≠ '&' ∧ c ≠ '#' := by
  intro piece member
  rcases List.mem_append.mp member with early | later
  · exact around.piecesClosed piece (List.mem_append_left _ early)
  · rcases List.mem_cons.mp later with rfl | late
    · refine List.forall_mem_append.mpr ⟨fun c inName => ?_, List.forall_mem_cons.mpr
        ⟨by decide, whole⟩⟩
      exact ⟨(around.nameClosed c inName).1, (around.nameClosed c inName).2.1⟩
    · exact around.piecesClosed piece (List.mem_append_right _ late)

theorem pieces_query {value : List Char} (whole : ∀ c ∈ value, c ≠ '&' ∧ c ≠ '#') :
    pieces '&' (around.query value) =
      around.before ++ (around.name ++ '=' :: value) :: around.after :=
  pieces_join (List.append_ne_nil_of_right_ne_nil _ (List.cons_ne_nil _ _))
    fun piece among member => (around.pieces_closed whole piece among '&' member).1 rfl

theorem notMem_query {value : List Char} (whole : ∀ c ∈ value, c ≠ '&' ∧ c ≠ '#') :
    '#' ∉ around.query value := by
  intro member
  rcases mem_of_mem_join member with same | ⟨piece, among, inside⟩
  · exact absurd same (by decide)
  · exact (around.pieces_closed whole piece among '#' inside).2 rfl

/-- What follows the authority is alike for any two values. -/
theorem alikeRests {first second : List Char} (firstWhole : ∀ c ∈ first, c ≠ '&' ∧ c ≠ '#')
    (secondWhole : ∀ c ∈ second, c ≠ '&' ∧ c ≠ '#') :
    AlikeRests (around.rest first) (around.rest second) := by
  refine .queries _ _ _ _ around.pathClosed (around.notMem_query firstWhole)
    (around.notMem_query secondWhole) ?_ ?_
  · unfold tail
    split
    · exact Or.inl rfl
    · exact Or.inr ⟨_, rfl⟩
  · rw [around.pieces_query firstWhole, around.pieces_query secondWhole]
    have same (parts : List (List Char)) : List.Forall₂ AlikePieces parts parts :=
      List.forall₂_same.mpr fun part _ => .same part
    have unmarked : '=' ∉ around.name := fun member => (around.nameClosed _ member).2.2 rfl
    have read : decodeText (unbroken around.name) = passwordName := by
      rw [unbroken_of_password around.nameRead]
      exact around.nameRead
    exact List.rel_append (same around.before)
      (.cons (.values around.name first second unmarked read) (same around.after))

/-- The user may hold colons, the first of which begins the password that is read. -/
theorem exists_readUser : ∃ user lead, ':' ∉ user ∧
    ∀ rest, around.user ++ ':' :: rest = user ++ ':' :: (lead ++ rest) := by
  by_cases colon : ':' ∈ around.user
  · obtain ⟨⟨user, later⟩, cut⟩ := Option.ne_none_iff_exists'.mp
      (mt (cutFirst?_eq_none_iff ':' around.user).mp (not_not_intro colon))
    obtain ⟨whole, absent⟩ := (cutFirst?_eq_some_iff ':' _ _ _).mp cut
    refine ⟨user, later ++ [':'], absent, fun rest => ?_⟩
    rw [whole, List.append_assoc, List.append_assoc]
    rfl
  · exact ⟨around.user, [], colon, fun rest => rfl⟩

/-- The same URL with other passwords is alike. -/
theorem alikeTexts {firstPassword secondPassword firstValue secondValue : List Char}
    (firstClosed : ∀ c ∈ firstPassword, c ≠ '/' ∧ c ≠ '?' ∧ c ≠ '#')
    (secondClosed : ∀ c ∈ secondPassword, c ≠ '/' ∧ c ≠ '?' ∧ c ≠ '#')
    (firstWhole : ∀ c ∈ firstValue, c ≠ '&' ∧ c ≠ '#')
    (secondWhole : ∀ c ∈ secondValue, c ≠ '&' ∧ c ≠ '#') :
    AlikeTexts (around.text firstPassword firstValue) (around.text secondPassword secondValue) := by
  obtain ⟨user, lead, noColon, split⟩ := around.exists_readUser
  have authority (password : List Char) : around.authority password =
      user ++ ':' :: ((lead ++ password) ++ '@' :: around.host) := by
    rw [List.append_assoc]
    exact split _
  have ended (value : List Char) : (around.rest value).head?.all endsAuthority = true := by
    unfold rest
    rcases around.pathBegins with empty | slash
    · rw [empty]
      rfl
    · rw [List.head?_append, slash]
      rfl
  have firstInside := around.authority_closed firstClosed
  have secondInside := around.authority_closed secondClosed
  rw [authority] at firstInside secondInside
  unfold text
  rw [authority, authority]
  exact .passwords _ _ _ _ _ around.cutScheme_front noColon
    (fun member => (around.hostClosed _ member).1 rfl) firstInside secondInside (ended _) (ended _)
    (around.alikeRests firstWhole secondWhole)

end Surroundings

/-- What is shown of a URL does not depend on the password of its user information, nor on the value
of a field of its query that is read as the password, whatever these hold and whatever stands around
them. -/
theorem redact_independent_of_secrets (around : Surroundings)
    {firstPassword secondPassword firstValue secondValue : List Char}
    (firstClosed : ∀ c ∈ firstPassword, c ≠ '/' ∧ c ≠ '?' ∧ c ≠ '#')
    (secondClosed : ∀ c ∈ secondPassword, c ≠ '/' ∧ c ≠ '?' ∧ c ≠ '#')
    (firstWhole : ∀ c ∈ firstValue, c ≠ '&' ∧ c ≠ '#')
    (secondWhole : ∀ c ∈ secondValue, c ≠ '&' ∧ c ≠ '#') {firstShown secondShown : String}
    (firstRedacted : redact (String.ofList (around.text firstPassword firstValue)) = .ok firstShown)
    (secondRedacted :
      redact (String.ofList (around.text secondPassword secondValue)) = .ok secondShown) :
    firstShown = secondShown := by
  have accepted {text : List Char} {shown : String}
      (redacted : redact (String.ofList text) = .ok shown) : Accepted (String.ofList text) := by
    unfold redact redactText at redacted
    unfold Accepted
    cases read : ofText (String.ofList text).toList with
    | error fault =>
      rw [read] at redacted
      cases redacted
    | ok url => exact ⟨url, rfl⟩
  have alike : Alike (String.ofList (around.text firstPassword firstValue))
      (String.ofList (around.text secondPassword secondValue)) := by
    refine Or.inr ⟨?_, accepted firstRedacted, accepted secondRedacted⟩
    rw [String.toList_ofList, String.toList_ofList]
    exact around.alikeTexts firstClosed secondClosed firstWhole secondWhole
  have same := redact_of_alike alike
  rw [firstRedacted, secondRedacted] at same
  exact Except.ok.inj same

/-- Surroundings in which the user holds a colon and the name of the field is escaped. -/
def escapedSurroundings : Surroundings where
  scheme := "postgreSQL".toList
  user := "bob:".toList
  host := "[::1]:5432".toList
  path := "/app".toList
  before := ["ssl=1".toList, []]
  name := "pass%77ord".toList
  after := ["password=old".toList]
  fragment := some "top".toList
  schemeBegins := rfl
  schemeSound := List.all_eq_true.mp rfl
  userClosed := by simp
  hostClosed := by simp
  pathBegins := Or.inr rfl
  pathClosed := by simp
  piecesClosed := by simp
  nameClosed := by simp
  nameRead := by decide

/-- Passwords that look like other parts of a URL, and empty ones. -/
theorem redact_independent_of_secrets_escaped :
    ∃ shown,
      redact (String.ofList
        (escapedSurroundings.text "s3:cr@t\t%zz".toList "x=1?y@z/".toList)) = .ok shown ∧
      redact (String.ofList (escapedSurroundings.text [] [])) = .ok shown := by
  obtain ⟨firstShown, first⟩ : ∃ shown, redact (String.ofList
      (escapedSurroundings.text "s3:cr@t\t%zz".toList "x=1?y@z/".toList)) = .ok shown := ⟨_, rfl⟩
  obtain ⟨secondShown, second⟩ : ∃ shown,
      redact (String.ofList (escapedSurroundings.text [] [])) = .ok shown := ⟨_, rfl⟩
  have same := redact_independent_of_secrets escapedSurroundings (by simp) (by simp)
    (by simp) (by simp) first second
  exact ⟨secondShown, same ▸ first, second⟩

end CatalogReader.Url
