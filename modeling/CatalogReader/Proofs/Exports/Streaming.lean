/-
Lists of quoted names, written to a sink that runs full. The tokens of a list are written one at a
time, and a sink with a limit takes a token as a whole or not at all. So a list that is longer than
the limit is cut between two tokens, before the first one that has no room, and since nothing is
asked of the sink after a refusal, what it holds then is a proper beginning of the list.
-/

import CatalogReader.Proofs.Exports.QuotedNames

namespace CatalogReader.SelectList

/-! ### What a sink is asked to write -/

section

variable {Place : Type} (write : Place → List Char → Place × Ending)

/-- Writing to a place beside which a record is kept of all tokens that it is asked to take. -/
def recording (state : Place × List (List Char)) (token : List Char) :
    (Place × List (List Char)) × Ending :=
  (((write state.1 token).1, state.2 ++ [token]), (write state.1 token).2)

theorem recording_of_write {place next : Place} {token : List Char} {ending : Ending}
    (written : write place token = (next, ending)) (asked : List (List Char)) :
    recording write (place, asked) token = ((next, asked ++ [token]), ending) := by
  rw [recording, written]

/-- The record does not change what is written. -/
theorem writeEach_recording (place : Place) (asked tokens : List (List Char)) :
    (writeEach (recording write) (place, asked) tokens).1.1 = (writeEach write place tokens).1 ∧
      (writeEach (recording write) (place, asked) tokens).2 = (writeEach write place tokens).2 := by
  induction tokens generalizing place asked with
  | nil => exact ⟨rfl, rfl⟩
  | cons token rest inductionHypothesis =>
    rcases written : write place token with ⟨next, ending⟩
    have recorded := recording_of_write write written asked
    cases ending with
    | full =>
      rw [writeEach_of_refused written, writeEach_of_refused recorded]
      exact ⟨rfl, rfl⟩
    | complete =>
      rw [writeEach_of_taken written, writeEach_of_taken recorded]
      exact inductionHypothesis next (asked ++ [token])

end

/-- The tokens that a sink with a limit is asked to take, when a list is written to it. -/
def askedOf (capacity : Nat) (names : List String) : List (List Char) :=
  (writeEach (recording Sink.write) (⟨capacity, []⟩, []) (tokens (names.map String.toList))).1.2

/-! ### Sinks with a limit -/

/-- Writing is refused at a token, behind others that were taken. -/
structure Halts (sink : Sink) (asked before : List (List Char)) (token : List Char)
    (result : (Sink × List (List Char)) × Ending) : Prop where
  result : result =
    (({ sink with written := sink.written ++ before.flatten }, asked ++ (before ++ [token])), .full)
  fits : sink.written.length + before.flatten.length ≤ sink.capacity
  refused : sink.capacity < sink.written.length + before.flatten.length + token.length

/-- Writing ends with all tokens, or at the first one that has no room. -/
theorem writeEach_cases (sink : Sink) (asked tokens : List (List Char))
    (room : sink.written.length ≤ sink.capacity) :
    (writeEach (recording Sink.write) (sink, asked) tokens =
        (({ sink with written := sink.written ++ tokens.flatten }, asked ++ tokens), .complete) ∧
      sink.written.length + tokens.flatten.length ≤ sink.capacity) ∨
    ∃ before token after, tokens = before ++ token :: after ∧
      Halts sink asked before token (writeEach (recording Sink.write) (sink, asked) tokens) := by
  induction tokens generalizing sink asked with
  | nil =>
    refine Or.inl ⟨?_, room⟩
    rw [writeEach, List.flatten_nil, List.append_nil, List.append_nil]
  | cons token rest inductionHypothesis =>
    by_cases fits : sink.written.length + token.length ≤ sink.capacity
    · have taken : sink.write token =
          ({ sink with written := sink.written ++ token }, .complete) := if_pos fits
      rw [writeEach_of_taken (recording_of_write Sink.write taken asked)]
      have room : (sink.written ++ token).length ≤ sink.capacity := by
        rwa [List.length_append]
      rcases inductionHypothesis { sink with written := sink.written ++ token } (asked ++ [token])
        room with ⟨complete, whole⟩ | ⟨before, last, after, rfl, result, fits, refused⟩
      · refine Or.inl ⟨?_, ?_⟩
        · rw [complete, List.flatten_cons, List.append_assoc, List.append_assoc,
            List.singleton_append]
        · simp only [List.length_append, List.flatten_cons] at whole ⊢
          omega
      · refine Or.inr ⟨token :: before, last, after, rfl, ?_, ?_, ?_⟩
        · rw [result, List.flatten_cons, List.append_assoc, List.append_assoc,
            List.singleton_append, List.cons_append]
        · simp only [List.length_append, List.flatten_cons] at fits ⊢
          omega
        · simp only [List.length_append, List.flatten_cons] at refused ⊢
          omega
    · have refused : sink.write token = (sink, .full) := if_neg fits
      rw [writeEach_of_refused (recording_of_write Sink.write refused asked)]
      refine Or.inr ⟨[], token, rest, rfl, ?_, room, Nat.lt_of_not_le fits⟩
      rw [List.flatten_nil, List.append_nil, List.nil_append]

/-! ### The tokens of a list -/

/-- A token by its place: names stand at the even places and commas between them. -/
def IsTokenAt (names : List (List Char)) (place : Nat) (token : List Char) : Prop :=
  if place % 2 = 0 then ∃ name, names[place / 2]? = some name ∧ token = quoteName name
  else token = [',']

theorem isTokenAt_of_getElem? {names : List (List Char)} {place : Nat} {token : List Char}
    (found : (tokens names)[place]? = some token) : IsTokenAt names place token := by
  fun_induction tokens names generalizing place with
  | case1 => cases found
  | case2 name =>
    cases place with
    | zero =>
      cases found
      exact ⟨name, rfl, rfl⟩
    | succ place => cases found
  | case3 name second rest inductionHypothesis =>
    match place with
    | 0 =>
      cases found
      exact ⟨name, rfl, rfl⟩
    | 1 =>
      cases found
      rfl
    | place + 2 =>
      have later := inductionHypothesis found
      unfold IsTokenAt at later ⊢
      rw [Nat.add_mod_right, Nat.add_div_right place Nat.two_pos, List.getElem?_cons_succ]
      exact later

/-! ### Lists that are cut -/

/-- Writing a list, by the same writing with a record of what is asked. -/
theorem writeTo_eq (capacity : Nat) (names : List String) :
    let recorded := writeEach (recording Sink.write) (⟨capacity, []⟩, [])
      (tokens (names.map String.toList))
    writeTo capacity names = (String.ofList recorded.1.1.written, recorded.2) := by
  obtain ⟨sink, ending⟩ :=
    writeEach_recording Sink.write ⟨capacity, []⟩ [] (tokens (names.map String.toList))
  dsimp only
  rw [sink, ending]
  rfl

/-- The whole list is the one that the grammar of quoted identifiers reads as the names. It is
written to a sink with a limit as a whole, unless it is longer than the limit. Then the sink
refuses, and it holds a proper beginning of the list: whole tokens, names and commas in turn, up to
one for which there is no room. This one is the last that the sink is asked to take. -/
theorem writeTo_cuts_between_tokens (capacity : Nat) (names : List String) :
    Lists (render names).toList (names.map String.toList) ∧
      ((writeTo capacity names).2 = .full ↔ capacity < (render names).length) ∧
      ((writeTo capacity names).2 = .complete → (writeTo capacity names).1 = render names) ∧
      ((writeTo capacity names).2 = .full → ∃ before token,
        (writeTo capacity names).1.toList = before.flatten ∧
          before.flatten ++ token <+: (render names).toList ∧
          before.flatten ≠ (render names).toList ∧
          before.flatten.length ≤ capacity ∧ capacity < (before.flatten ++ token).length ∧
          (∀ place piece, (before ++ [token])[place]? = some piece →
            IsTokenAt (names.map String.toList) place piece) ∧
          askedOf capacity names = before ++ [token]) := by
  have whole : (render names).toList = (tokens (names.map String.toList)).flatten :=
    String.toList_ofList
  have listed : Lists (tokens (names.map String.toList)).flatten (names.map String.toList) :=
    lists_text _
  rw [← String.length_toList, whole, writeTo_eq, askedOf]
  refine ⟨listed, ?_⟩
  rcases writeEach_cases ⟨capacity, []⟩ [] (tokens (names.map String.toList)) (Nat.zero_le _) with
    ⟨complete, room⟩ | ⟨before, token, after, same, result, fits, refused⟩
  · rw [List.length_nil, Nat.zero_add] at room
    rw [complete]
    refine ⟨⟨nofun, fun longer => absurd room (Nat.not_le_of_lt longer)⟩, fun _ => ?_, nofun⟩
    exact String.toList_inj.mp (String.toList_ofList.trans whole.symm)
  · rw [List.length_nil, Nat.zero_add] at fits refused
    rw [← List.length_append] at refused
    have continued : before.flatten ++ token <+: (tokens (names.map String.toList)).flatten := by
      rw [same, List.flatten_append, List.flatten_cons, ← List.append_assoc]
      exact List.prefix_append _ _
    have longer := Nat.lt_of_lt_of_le refused continued.length_le
    have begun : tokens (names.map String.toList) = before ++ [token] ++ after :=
      same.trans (List.append_cons _ _ _)
    rw [result]
    refine ⟨⟨fun _ => longer, fun _ => rfl⟩, nofun, fun _ => ⟨before, token, String.toList_ofList,
      continued, ?_, fits, refused, ?_, rfl⟩⟩
    · intro equal
      rw [equal] at fits
      exact absurd fits (Nat.not_le_of_lt longer)
    · intro place piece found
      obtain ⟨asked, -⟩ := List.getElem?_eq_some_iff.mp found
      refine isTokenAt_of_getElem? ?_
      rw [begun, List.getElem?_append_left asked, found]

end CatalogReader.SelectList
