/-
How the reading of a URL takes a longer text apart. Blanks and controls are dropped in front only,
and tabs and line breaks everywhere, so that a text that follows a visible one keeps its place. The
scheme is decided by the first character that no scheme holds, the authority by the first one that
ends it, and the query and the fragment by the first of their marks.
-/

import CatalogReader.Url.Redaction
import Mathlib.Data.List.TakeDrop

namespace CatalogReader.Url

open CatalogReader.Text

/-! ### Characters that are not read -/

/-- A text without tabs and line breaks, which are never read. -/
def unbroken (text : List Char) : List Char :=
  text.filter fun c => !(c == '\t' || c == '\r' || c == '\n')

theorem unbroken_append (first second : List Char) :
    unbroken (first ++ second) = unbroken first ++ unbroken second :=
  List.filter_append ..

theorem unbroken_cons {c : Char} (kept : c ≠ '\t' ∧ c ≠ '\r' ∧ c ≠ '\n') (rest : List Char) :
    unbroken (c :: rest) = c :: unbroken rest := by
  refine List.filter_cons_of_pos ?_
  simp [kept]

theorem unbroken_cons_of_break {c : Char} (dropped : ¬(c ≠ '\t' ∧ c ≠ '\r' ∧ c ≠ '\n'))
    (rest : List Char) : unbroken (c :: rest) = unbroken rest := by
  refine List.filter_cons_of_neg ?_
  intro kept
  refine dropped ?_
  simpa [and_assoc] using kept

theorem mem_of_mem_unbroken {c : Char} {text : List Char} (member : c ∈ unbroken text) : c ∈ text :=
  (List.mem_filter.mp member).1

theorem mem_of_mem_cleaned {c : Char} {text : List Char} (member : c ∈ cleaned text) : c ∈ text :=
  (List.dropWhile_sublist _).subset (mem_of_mem_unbroken member)

theorem visible_of_isSchemeChar {c : Char} (sound : isSchemeChar c = true) : ¬c.toNat ≤ 0x20 := by
  intro small
  have none : ∀ code : Fin 33, isSchemeChar (Char.ofNat code.val) = false := by decide
  have unsound : isSchemeChar (Char.ofNat c.toNat) = false := none ⟨c.toNat, by omega⟩
  rw [Char.ofNat_toNat, sound] at unsound
  cases unsound

/-- A text of visible characters is read as it is. -/
theorem cleaned_of_visible {text : List Char} (visible : ∀ c ∈ text, ¬c.toNat ≤ 0x20) :
    cleaned text = text := by
  have kept : text.dropWhile (fun c => decide (c.toNat ≤ 0x20)) = text := by
    cases text with
    | nil => rfl
    | cons first others =>
      exact List.dropWhile_cons_of_neg (mt of_decide_eq_true (visible first List.mem_cons_self))
  show unbroken (text.dropWhile _) = text
  rw [kept]
  refine List.filter_eq_self.mpr fun c member => ?_
  have read : c ≠ '\t' ∧ c ≠ '\r' ∧ c ≠ '\n' := by
    refine ⟨?_, ?_, ?_⟩ <;> rintro rfl
    all_goals exact visible _ member (by decide)
  simp [read]

/-- A character that stops the dropping stays, with all that follows it. -/
theorem dropWhile_append_stop {dropped : Char → Bool} {c : Char} (stops : dropped c = false)
    (before after : List Char) :
    (before ++ c :: after).dropWhile dropped = before.dropWhile dropped ++ c :: after := by
  induction before with
  | nil => exact List.dropWhile_cons_of_neg (Bool.eq_false_iff.mp stops)
  | cons first others inductionHypothesis =>
    rw [List.cons_append, List.dropWhile_cons, List.dropWhile_cons]
    by_cases more : dropped first = true
    · rw [if_pos more, if_pos more, inductionHypothesis]
    · rw [if_neg more, if_neg more, List.cons_append]

theorem takeWhile_append_stop {taken : Char → Bool} {c : Char} (stops : taken c = false)
    (before after : List Char) :
    (before ++ c :: after).takeWhile taken = before.takeWhile taken := by
  induction before with
  | nil => exact List.takeWhile_cons_of_neg (Bool.eq_false_iff.mp stops)
  | cons first others inductionHypothesis =>
    rw [List.cons_append, List.takeWhile_cons, List.takeWhile_cons, inductionHypothesis]

/-- What follows a visible character keeps all but its tabs and line breaks. -/
theorem cleaned_append_cons {c : Char} (visible : ¬c.toNat ≤ 0x20) (before after : List Char) :
    cleaned (before ++ c :: after) = cleaned before ++ unbroken (c :: after) := by
  show unbroken ((before ++ c :: after).dropWhile _) = unbroken (before.dropWhile _) ++ _
  rw [dropWhile_append_stop (decide_eq_false visible), unbroken_append]

theorem cleaned_append {before : List Char} (visible : cleaned before ≠ []) (after : List Char) :
    cleaned (before ++ after) = cleaned before ++ unbroken after := by
  show unbroken ((before ++ after).dropWhile _) = unbroken (before.dropWhile _) ++ _
  rw [List.dropWhile_append]
  cases left : before.dropWhile fun c => decide (c.toNat ≤ 0x20) with
  | nil =>
    refine absurd ?_ visible
    show unbroken (before.dropWhile _) = []
    rw [left]
    rfl
  | cons first others => exact unbroken_append (first :: others) after

/-! ### Where the parts are cut -/

theorem cutFirst?_append_of_mem {mark : Char} {text before after : List Char}
    (found : cutFirst? mark text = some (before, after)) (rest : List Char) :
    cutFirst? mark (text ++ rest) = some (before, after ++ rest) := by
  obtain ⟨rfl, absent⟩ := (cutFirst?_eq_some_iff mark _ _ _).mp found
  refine (cutFirst?_eq_some_iff mark _ _ _).mpr ⟨?_, absent⟩
  rw [List.append_assoc, List.cons_append]

theorem cutFirst?_append_of_notMem {mark : Char} {text : List Char} (absent : mark ∉ text)
    (rest : List Char) :
    cutFirst? mark (text ++ rest) =
      (cutFirst? mark rest).map fun (before, after) => (text ++ before, after) := by
  induction text with
  | nil =>
    rw [List.nil_append]
    exact Option.map_id'.symm
  | cons c others inductionHypothesis =>
    obtain ⟨other, absentLater⟩ := not_or.mp fun either => absent (List.mem_cons.mpr either)
    rw [List.cons_append, cutFirst?, if_neg (Ne.symm other), inductionHypothesis absentLater,
      Option.map_map]
    rfl

/-- A colon behind a character that no scheme holds ends no scheme. -/
theorem cutScheme_of_outside {text before after : List Char} {c : Char}
    (found : cutFirst? ':' text = some (before, after)) (member : c ∈ before)
    (outside : isSchemeChar c = false) : cutScheme text = ([], text) := by
  unfold cutScheme
  rw [found]
  cases before with
  | nil => cases member
  | cons first others =>
    refine if_neg fun sound => ?_
    obtain ⟨letter, rest⟩ := Bool.and_eq_true_iff.mp sound
    rcases List.mem_cons.mp member with rfl | later
    · have alphanumeric : isSchemeChar c = true := by
        unfold isSchemeChar Char.isAlphanum
        rw [letter]
        rfl
      exact absurd (outside.symm.trans alphanumeric) Bool.false_ne_true
    · have inside := List.all_eq_true.mp rest c later
      exact absurd (outside.symm.trans inside) Bool.false_ne_true

/-- A character that no scheme holds ends the search for one, but for the colon. -/
theorem cutScheme_append_cons {c : Char} (outside : isSchemeChar c = false) (other : c ≠ ':')
    (text rest : List Char) :
    cutScheme (text ++ c :: rest) = ((cutScheme text).1, (cutScheme text).2 ++ c :: rest) := by
  cases found : cutFirst? ':' text with
  | some parts =>
    obtain ⟨before, after⟩ := parts
    have longer := cutFirst?_append_of_mem found (c :: rest)
    unfold cutScheme
    rw [found, longer]
    cases before with
    | nil => rfl
    | cons first others =>
      by_cases sound : (first.isAlpha && others.all isSchemeChar) = true
      · simp only [if_pos sound]
      · simp only [if_neg sound]
  | none =>
    have whole : cutScheme text = ([], text) := by
      unfold cutScheme
      rw [found]
    have later := cutFirst?_append_of_notMem ((cutFirst?_eq_none_iff ':' text).mp found) (c :: rest)
    rw [cutFirst?, if_neg other] at later
    rw [whole]
    cases further : cutFirst? ':' rest with
    | none =>
      rw [further] at later
      unfold cutScheme
      rw [later]
      rfl
    | some parts =>
      obtain ⟨before, after⟩ := parts
      rw [further] at later
      exact cutScheme_of_outside later (List.mem_append_right _ List.mem_cons_self) outside

/-- A text with a character that no scheme holds decides itself what its scheme is. -/
theorem cutScheme_append {text : List Char} {c : Char} (member : c ∈ text)
    (outside : isSchemeChar c = false) (other : c ≠ ':') (rest : List Char) :
    cutScheme (text ++ rest) = ((cutScheme text).1, (cutScheme text).2 ++ rest) := by
  obtain ⟨before, after, rfl⟩ := List.append_of_mem member
  rw [List.append_assoc, List.cons_append, cutScheme_append_cons outside other,
    cutScheme_append_cons outside other, List.append_assoc, List.cons_append]

theorem mem_of_mem_afterScheme {c : Char} {text : List Char} (member : c ∈ (cutScheme text).2) :
    c ∈ text := by
  unfold cutScheme at member
  split at member
  case h_1 first others after found =>
    split at member
    · obtain ⟨split, _⟩ := (cutFirst?_eq_some_iff ':' _ _ _).mp found
      rw [split]
      exact List.mem_append_right _ (List.mem_cons_of_mem _ member)
    · exact member
  case h_2 => exact member

theorem cutAuthority_of_slashes (rest : List Char) :
    cutAuthority ('/' :: '/' :: rest) =
      (rest.takeWhile fun c => !endsAuthority c, rest.dropWhile fun c => !endsAuthority c) :=
  List.span_eq_takeWhile_dropWhile ..

theorem cutAuthority_of_other {text : List Char} (other : ∀ rest, text ≠ '/' :: '/' :: rest) :
    cutAuthority text = ([], text) := by
  unfold cutAuthority
  split
  · exact absurd rfl (other _)
  · rfl

/-- A mark that ends an authority and begins none stands behind whatever authority there is. -/
theorem cutAuthority_append_cons {c : Char} (ends : endsAuthority c = true) (other : c ≠ '/')
    (text rest : List Char) :
    cutAuthority (text ++ c :: rest) =
      ((cutAuthority text).1, (cutAuthority text).2 ++ c :: rest) := by
  by_cases slashes : ∃ inner, text = '/' :: '/' :: inner
  · obtain ⟨inner, rfl⟩ := slashes
    have stops : (!endsAuthority c) = false := by rw [ends]; rfl
    show cutAuthority ('/' :: '/' :: (inner ++ c :: rest)) = _
    rw [cutAuthority_of_slashes, cutAuthority_of_slashes, takeWhile_append_stop stops,
      dropWhile_append_stop stops]
  · rw [cutAuthority_of_other fun inner same => slashes ⟨inner, same⟩, cutAuthority_of_other]
    intro inner same
    match text with
    | [] => exact other (List.cons.inj same).1
    | [_] => exact other (List.cons.inj (List.cons.inj same).2).1
    | first :: second :: others =>
      refine slashes ⟨others, ?_⟩
      rw [(List.cons.inj same).1, (List.cons.inj (List.cons.inj same).2).1]

theorem mem_of_mem_afterAuthority {c : Char} {text : List Char}
    (member : c ∈ (cutAuthority text).2) : c ∈ text := by
  by_cases slashes : ∃ inner, text = '/' :: '/' :: inner
  · obtain ⟨inner, rfl⟩ := slashes
    rw [cutAuthority_of_slashes] at member
    exact List.mem_cons_of_mem _ (List.mem_cons_of_mem _
      ((List.dropWhile_sublist _).subset member))
  · rw [cutAuthority_of_other fun inner same => slashes ⟨inner, same⟩] at member
    exact member

/-- An authority without a mark that ends it is read whole, up to such a mark or the end. -/
theorem cutAuthority_of_closed {authority rest : List Char}
    (closed : ∀ c ∈ authority, endsAuthority c = false)
    (ended : rest.head?.all endsAuthority = true) :
    cutAuthority ('/' :: '/' :: (authority ++ rest)) = (authority, rest) := by
  have inside : ∀ c ∈ authority, (!endsAuthority c) = true := fun c member => by
    rw [closed c member]
    rfl
  rw [cutAuthority_of_slashes, List.takeWhile_append_of_pos inside,
    List.dropWhile_append_of_pos inside]
  cases rest with
  | nil => rw [List.takeWhile_nil, List.dropWhile_nil, List.append_nil]
  | cons first others =>
    have stops : ¬(!endsAuthority first) = true := by
      rw [show endsAuthority first = true from ended]
      exact Bool.false_ne_true
    rw [List.takeWhile_cons, List.dropWhile_cons, if_neg stops, if_neg stops, List.append_nil]

/-! ### The path, the query and the fragment -/

/-- The path, the query and the fragment of what follows an authority. -/
def partsOfRest (rest : List Char) : List Char × List Char × List Char :=
  let (beforeFragment, fragment) := cutAt '#' rest
  let (path, query) := cutAt '?' beforeFragment
  (path, query, fragment)

/-- An accepted text is the URL of the parts that are cut from it. -/
theorem eq_of_ofText {text : List Char} {url : Url} (read : ofText text = .ok url) :
    url = ⟨(cutScheme (cleaned text)).1, (cutAuthority (cutScheme (cleaned text)).2).1,
      (partsOfRest (cutAuthority (cutScheme (cleaned text)).2).2).1,
      (partsOfRest (cutAuthority (cutScheme (cleaned text)).2).2).2.1,
      (partsOfRest (cutAuthority (cutScheme (cleaned text)).2).2).2.2⟩ := by
  unfold ofText at read
  simp only at read
  split at read
  · cases read
  · cases read
    rfl

theorem cutAt_of_notMem {mark : Char} {text : List Char} (absent : mark ∉ text) :
    cutAt mark text = (text, []) := by
  unfold cutAt
  rw [(cutFirst?_eq_none_iff mark text).mpr absent]
  rfl

theorem cutAt_append_cons {mark : Char} {before : List Char} (absent : mark ∉ before)
    (after : List Char) : cutAt mark (before ++ mark :: after) = (before, after) := by
  unfold cutAt
  rw [(cutFirst?_eq_some_iff mark _ before after).mpr ⟨rfl, absent⟩]
  rfl

/-- The query stands between the first question mark and the first number sign. -/
theorem partsOfRest_of_query {before query after : List Char}
    (unmarked : ∀ c ∈ before, c ≠ '?' ∧ c ≠ '#') (closed : '#' ∉ query)
    (ended : after = [] ∨ ∃ fragment, after = '#' :: fragment) :
    partsOfRest (before ++ '?' :: (query ++ after)) = (before, query, after.tail) := by
  have noQuery : '?' ∉ before := fun member => (unmarked _ member).1 rfl
  have noFragment : '#' ∉ before ++ '?' :: query := by
    intro member
    rcases List.mem_append.mp member with inside | later
    · exact (unmarked _ inside).2 rfl
    · rcases List.mem_cons.mp later with mark | inside
      · exact absurd mark (by decide)
      · exact closed inside
  have whole : before ++ '?' :: (query ++ after) = (before ++ '?' :: query) ++ after := by
    rw [List.append_assoc, List.cons_append]
  unfold partsOfRest
  rcases ended with rfl | ⟨fragment, rfl⟩
  · rw [List.append_nil, cutAt_of_notMem noFragment]
    show ((cutAt '?' _).1, (cutAt '?' _).2, _) = _
    rw [cutAt_append_cons noQuery]
    rfl
  · rw [whole, cutAt_append_cons noFragment]
    show ((cutAt '?' _).1, (cutAt '?' _).2, _) = _
    rw [cutAt_append_cons noQuery]
    rfl

end CatalogReader.Url
