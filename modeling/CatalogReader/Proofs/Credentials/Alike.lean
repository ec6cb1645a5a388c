/-
URLs that differ in their passwords only, as texts. A password stands in the user information, from
its first colon to the last at sign of the authority, or it is the value of a query field whose name
is read as `password`. Two texts are alike when they agree in everything else, letter for letter,
and none of their passwords holds a character that would end the authority, the value or the query.

Such texts are read the same way: the passwords move no other part of the URL, and what is left when
they are masked is the same.
-/

import CatalogReader.Proofs.Url.Reading
import Mathlib.Data.List.Forall2

namespace CatalogReader.Url

open CatalogReader.Text

/-! ### Alike texts -/

/-- Pieces of a query that differ at most in the value of a field that holds a password. -/
inductive AlikePieces : List Char → List Char → Prop
  | same (piece : List Char) : AlikePieces piece piece
  | values (name first second : List Char) (unmarked : '=' ∉ name)
      (password : decodeText (unbroken name) = passwordName) :
      AlikePieces (name ++ '=' :: first) (name ++ '=' :: second)

/-- Texts that differ at most in their queries, and there in the values of passwords. -/
inductive AlikeRests : List Char → List Char → Prop
  | same (rest : List Char) : AlikeRests rest rest
  | queries (before first second after : List Char)
      (unmarked : ∀ c ∈ before, c ≠ '?' ∧ c ≠ '#') (firstClosed : '#' ∉ first)
      (secondClosed : '#' ∉ second) (ended : after = [] ∨ ∃ fragment, after = '#' :: fragment)
      (alike : List.Forall₂ AlikePieces (pieces '&' first) (pieces '&' second)) :
      AlikeRests (before ++ '?' :: (first ++ after)) (before ++ '?' :: (second ++ after))

/-- Texts that differ at most in the passwords of their user information and of their queries. -/
inductive AlikeTexts : List Char → List Char → Prop
  | rests {first second : List Char} (alike : AlikeRests first second) : AlikeTexts first second
  | passwords (front user first second place : List Char) {firstRest secondRest : List Char}
      (opened : (cutScheme (cleaned front)).2 = ['/', '/']) (unmarked : ':' ∉ user)
      (placed : '@' ∉ place)
      (firstClosed : ∀ c ∈ user ++ ':' :: (first ++ '@' :: place), endsAuthority c = false)
      (secondClosed : ∀ c ∈ user ++ ':' :: (second ++ '@' :: place), endsAuthority c = false)
      (firstEnded : firstRest.head?.all endsAuthority = true)
      (secondEnded : secondRest.head?.all endsAuthority = true)
      (alike : AlikeRests firstRest secondRest) :
      AlikeTexts (front ++ (user ++ ':' :: (first ++ '@' :: place)) ++ firstRest)
        (front ++ (user ++ ':' :: (second ++ '@' :: place)) ++ secondRest)

/-- Whether a text is accepted as a URL. -/
def Accepted (text : String) : Prop := ∃ url, ofText text.toList = .ok url

/-- The same text, or two accepted ones that differ in their passwords only. -/
def Alike (first second : String) : Prop :=
  first = second ∨ AlikeTexts first.toList second.toList ∧ Accepted first ∧ Accepted second

/-! ### Queries -/

/-- The fields of the pieces of a query. -/
def fieldsOfPieces (parts : List (List Char)) : List Field :=
  (parts.filter fun piece => !piece.isEmpty).map fieldOfPiece

/-- Fields that are the same when their passwords are masked. -/
def AlikeFields (first second : Field) : Prop :=
  first = second ∨ first.name = passwordName ∧ second.name = passwordName

/-- Leaving out characters other than the mark leaves the cuts where they are. -/
theorem pieces_unbroken (query : List Char) :
    pieces '&' (unbroken query) = (pieces '&' query).map unbroken := by
  induction query with
  | nil => rfl
  | cons c rest inductionHypothesis =>
    obtain ⟨first, others, split⟩ := List.exists_cons_of_ne_nil (pieces_ne_nil '&' rest)
    rw [split, List.map_cons] at inductionHypothesis
    by_cases mark : c = '&'
    · subst mark
      rw [unbroken_cons (by decide), pieces, if_pos rfl, pieces, if_pos rfl, split,
        inductionHypothesis]
      rfl
    · have longer : pieces '&' (c :: rest) = (c :: first) :: others := by
        rw [pieces, if_neg mark, split]
      rw [longer, List.map_cons]
      by_cases kept : c ≠ '\t' ∧ c ≠ '\r' ∧ c ≠ '\n'
      · rw [unbroken_cons kept, unbroken_cons kept, pieces, if_neg mark, inductionHypothesis]
      · rw [unbroken_cons_of_break kept, unbroken_cons_of_break kept, inductionHypothesis]

theorem fieldOfPiece_password {name : List Char} (value : List Char) (unmarked : '=' ∉ name)
    (password : decodeText (unbroken name) = passwordName) :
    (fieldOfPiece (unbroken (name ++ '=' :: value))).name = passwordName := by
  have cut : cutFirst? '=' (unbroken (name ++ '=' :: value)) =
      some (unbroken name, unbroken value) := by
    rw [unbroken_append, unbroken_cons (by decide)]
    exact (cutFirst?_eq_some_iff '=' _ _ _).mpr
      ⟨rfl, fun member => unmarked (mem_of_mem_unbroken member)⟩
  unfold fieldOfPiece
  rw [cut]
  exact password

/-- A piece with an equals sign is a field, whatever is left out of it. -/
theorem fieldsOfPieces_cons_marked (name value : List Char) (others : List (List Char)) :
    fieldsOfPieces (unbroken (name ++ '=' :: value) :: others) =
      fieldOfPiece (unbroken (name ++ '=' :: value)) :: fieldsOfPieces others := by
  unfold fieldsOfPieces
  rw [List.filter_cons_of_pos, List.map_cons]
  rw [unbroken_append, unbroken_cons (by decide)]
  cases unbroken name <;> rfl

theorem alikeFields_of_pieces {first second : List (List Char)}
    (alike : List.Forall₂ AlikePieces first second) :
    List.Forall₂ AlikeFields (fieldsOfPieces (first.map unbroken))
      (fieldsOfPieces (second.map unbroken)) := by
  induction alike with
  | nil => exact .nil
  | @cons piece _ _ _ head _ inductionHypothesis =>
    rw [List.map_cons, List.map_cons]
    cases head with
    | same =>
      unfold fieldsOfPieces
      rw [List.filter_cons, List.filter_cons]
      by_cases empty : (!(unbroken piece).isEmpty) = true
      · rw [if_pos empty, if_pos empty]
        exact .cons (Or.inl rfl) inductionHypothesis
      · rw [if_neg empty, if_neg empty]
        exact inductionHypothesis
    | values name firstValue secondValue unmarked password =>
      rw [fieldsOfPieces_cons_marked, fieldsOfPieces_cons_marked]
      exact .cons (Or.inr ⟨fieldOfPiece_password firstValue unmarked password,
        fieldOfPiece_password secondValue unmarked password⟩) inductionHypothesis

theorem maskField_of_alike {first second : Field} (alike : AlikeFields first second) :
    maskField first = maskField second := by
  rcases alike with rfl | ⟨firstName, secondName⟩
  · rfl
  · unfold maskField
    rw [if_pos firstName, if_pos secondName, firstName, secondName]

theorem map_maskField_of_alike {first second : List Field}
    (alike : List.Forall₂ AlikeFields first second) :
    first.map maskField = second.map maskField := by
  induction alike with
  | nil => rfl
  | cons head _ inductionHypothesis =>
    rw [List.map_cons, List.map_cons, maskField_of_alike head, inductionHypothesis]

theorem any_password_of_alike {first second : List Field}
    (alike : List.Forall₂ AlikeFields first second) :
    (first.any fun field => field.name == passwordName) =
      second.any fun field => field.name == passwordName := by
  induction alike with
  | nil => rfl
  | cons head _ inductionHypothesis =>
    rw [List.any_cons, List.any_cons, inductionHypothesis]
    rcases head with rfl | ⟨firstName, secondName⟩
    · rfl
    · rw [firstName, secondName]

/-- Without a field that holds a password, nothing differs. -/
theorem map_unbroken_of_alike {first second : List (List Char)}
    (alike : List.Forall₂ AlikePieces first second)
    (none : (fieldsOfPieces (first.map unbroken)).any (fun field => field.name == passwordName) =
      false) : first.map unbroken = second.map unbroken := by
  induction alike with
  | nil => rfl
  | @cons piece _ _ _ head _ inductionHypothesis =>
    cases head with
    | same =>
      rw [List.map_cons, List.map_cons, inductionHypothesis]
      rw [List.map_cons] at none
      unfold fieldsOfPieces at none ⊢
      rw [List.filter_cons] at none
      by_cases empty : (!(unbroken piece).isEmpty) = true
      · rw [if_pos empty, List.map_cons, List.any_cons, Bool.or_eq_false_iff] at none
        exact none.2
      · rw [if_neg empty] at none
        exact none
    | values name firstValue secondValue unmarked password =>
      rw [List.map_cons, fieldsOfPieces_cons_marked, List.any_cons,
        fieldOfPiece_password firstValue unmarked password, beq_self_eq_true, Bool.true_or] at none
      cases none

/-- Queries that differ in passwords only are the same when these are masked. -/
theorem maskQuery_of_alike {first second : List Char}
    (alike : List.Forall₂ AlikePieces (pieces '&' first) (pieces '&' second)) :
    maskQuery (unbroken first) = maskQuery (unbroken second) := by
  have fields (query : List Char) :
      fieldsOfQuery (unbroken query) = fieldsOfPieces ((pieces '&' query).map unbroken) :=
    congrArg fieldsOfPieces (pieces_unbroken query)
  have alikeFields := alikeFields_of_pieces alike
  unfold maskQuery
  simp only [fields, ← any_password_of_alike alikeFields, map_maskField_of_alike alikeFields]
  cases found : (fieldsOfPieces ((pieces '&' first).map unbroken)).any
      fun field => field.name == passwordName with
  | true => rfl
  | false =>
    show unbroken first = unbroken second
    rw [← join_pieces '&' (unbroken first), ← join_pieces '&' (unbroken second), pieces_unbroken,
      pieces_unbroken, map_unbroken_of_alike alike found]

/-! ### The other parts -/

/-- The query that is read between a question mark and a number sign. -/
theorem partsOfRest_unbroken {before query after : List Char}
    (unmarked : ∀ c ∈ before, c ≠ '?' ∧ c ≠ '#') (closed : '#' ∉ query)
    (ended : after = [] ∨ ∃ fragment, after = '#' :: fragment) :
    partsOfRest (before ++ '?' :: unbroken (query ++ after)) =
      (before, unbroken query, (unbroken after).tail) := by
  rw [unbroken_append]
  refine partsOfRest_of_query unmarked (fun member => closed (mem_of_mem_unbroken member)) ?_
  rcases ended with rfl | ⟨fragment, rfl⟩
  · exact Or.inl rfl
  · exact Or.inr ⟨unbroken fragment, unbroken_cons (by decide) _⟩

/-- What follows the authority agrees but for the passwords of the query. -/
theorem partsOfRest_of_alike {first second : List Char} (alike : AlikeRests first second) :
    (partsOfRest (unbroken first)).1 = (partsOfRest (unbroken second)).1 ∧
      maskQuery (partsOfRest (unbroken first)).2.1 =
        maskQuery (partsOfRest (unbroken second)).2.1 ∧
      (partsOfRest (unbroken first)).2.2 = (partsOfRest (unbroken second)).2.2 := by
  cases alike with
  | same rest => exact ⟨rfl, rfl, rfl⟩
  | queries before firstQuery secondQuery after unmarked firstClosed secondClosed ended alike =>
    have stillUnmarked : ∀ c ∈ unbroken before, c ≠ '?' ∧ c ≠ '#' :=
      fun c member => unmarked c (mem_of_mem_unbroken member)
    rw [unbroken_append, unbroken_append, unbroken_cons (by decide), unbroken_cons (by decide),
      partsOfRest_unbroken stillUnmarked firstClosed ended,
      partsOfRest_unbroken stillUnmarked secondClosed ended]
    exact ⟨rfl, maskQuery_of_alike alike, rfl⟩

/-- A password between the first colon and the last at sign is masked. -/
theorem maskAuthority_of_password {user password place : List Char} (unmarked : ':' ∉ user)
    (placed : '@' ∉ place) :
    maskAuthority (user ++ ':' :: (password ++ '@' :: place)) =
      user ++ ':' :: mask ++ '@' :: place := by
  have last : cutLast? '@' (user ++ ':' :: (password ++ '@' :: place)) =
      some (user ++ ':' :: password, place) := by
    refine (cutLast?_eq_some_iff '@' _ _ _).mpr ⟨?_, placed⟩
    rw [List.append_assoc, List.cons_append]
  have first : cutFirst? ':' (user ++ ':' :: password) = some (user, password) :=
    (cutFirst?_eq_some_iff ':' _ _ _).mpr ⟨rfl, unmarked⟩
  unfold maskAuthority
  rw [last]
  simp only [first]

/-- The parts of a text with a password in its user information. -/
theorem cut_of_password {front user password place rest : List Char}
    (opened : (cutScheme (cleaned front)).2 = ['/', '/'])
    (closed : ∀ c ∈ user ++ ':' :: (password ++ '@' :: place), endsAuthority c = false)
    (ended : rest.head?.all endsAuthority = true) :
    (cutScheme (cleaned (front ++ (user ++ ':' :: (password ++ '@' :: place)) ++ rest))).1 =
        (cutScheme (cleaned front)).1 ∧
      cutAuthority
          (cutScheme (cleaned (front ++ (user ++ ':' :: (password ++ '@' :: place)) ++ rest))).2 =
        (unbroken user ++ ':' :: (unbroken password ++ '@' :: unbroken place), unbroken rest) := by
  have slash : '/' ∈ cleaned front := by
    refine mem_of_mem_afterScheme ?_
    rw [opened]
    exact List.mem_cons_self
  have authority : unbroken (user ++ ':' :: (password ++ '@' :: place)) =
      unbroken user ++ ':' :: (unbroken password ++ '@' :: unbroken place) := by
    rw [unbroken_append, unbroken_cons (by decide), unbroken_append, unbroken_cons (by decide)]
  -- A mark that ends the authority is no character that is left out.
  have begins : (unbroken rest).head?.all endsAuthority = true := by
    cases rest with
    | nil => rfl
    | cons c others =>
      have kept : c ≠ '\t' ∧ c ≠ '\r' ∧ c ≠ '\n' := by
        have marks : endsAuthority c = true := ended
        refine ⟨?_, ?_, ?_⟩ <;> rintro rfl <;> exact absurd marks (by decide)
      rw [unbroken_cons kept]
      exact ended
  rw [List.append_assoc, cleaned_append (List.ne_nil_of_mem slash), unbroken_append,
    cutScheme_append slash (by decide) (by decide), opened, ← authority]
  have inside : ∀ c ∈ unbroken (user ++ ':' :: (password ++ '@' :: place)),
      endsAuthority c = false :=
    fun c member => closed c (mem_of_mem_unbroken member)
  exact ⟨rfl, cutAuthority_of_closed inside begins⟩

/-- In front of a question mark all parts are cut before the query is looked at. -/
theorem cut_of_query {before : List Char} (unmarked : ∀ c ∈ before, c ≠ '?' ∧ c ≠ '#') :
    ∃ scheme authority path, (∀ c ∈ path, c ≠ '?' ∧ c ≠ '#') ∧ ∀ rest,
      (cutScheme (cleaned (before ++ '?' :: rest))).1 = scheme ∧
        cutAuthority (cutScheme (cleaned (before ++ '?' :: rest))).2 =
          (authority, path ++ '?' :: unbroken rest) := by
  let afterScheme := (cutScheme (cleaned before)).2
  refine ⟨(cutScheme (cleaned before)).1, (cutAuthority afterScheme).1,
    (cutAuthority afterScheme).2, ?_, fun rest => ?_⟩
  · intro c member
    have inside := mem_of_mem_afterScheme (mem_of_mem_afterAuthority member)
    exact unmarked c (mem_of_mem_cleaned inside)
  · rw [cleaned_append_cons (by decide), unbroken_cons (by decide),
      cutScheme_append_cons (by decide) (by decide)]
    exact ⟨rfl, cutAuthority_append_cons (by decide) (by decide) _ _⟩

/-- Accepted texts that differ in their passwords only are the same URL when these are masked. -/
theorem masked_of_alike {first second : List Char} {firstUrl secondUrl : Url}
    (alike : AlikeTexts first second) (firstRead : ofText first = .ok firstUrl)
    (secondRead : ofText second = .ok secondUrl) : firstUrl.masked = secondUrl.masked := by
  rw [eq_of_ofText firstRead, eq_of_ofText secondRead]
  unfold masked
  cases alike with
  | passwords front user firstPassword secondPassword place opened unmarked placed firstClosed
      secondClosed firstEnded secondEnded alike =>
    obtain ⟨firstScheme, firstCut⟩ := cut_of_password opened firstClosed firstEnded
    obtain ⟨secondScheme, secondCut⟩ := cut_of_password opened secondClosed secondEnded
    obtain ⟨path, query, fragment⟩ := partsOfRest_of_alike alike
    have noColon : ':' ∉ unbroken user := fun member => unmarked (mem_of_mem_unbroken member)
    have noAt : '@' ∉ unbroken place := fun member => placed (mem_of_mem_unbroken member)
    simp only [firstScheme, secondScheme, firstCut, secondCut, path, query, fragment,
      maskAuthority_of_password noColon noAt]
  | rests alike =>
    cases alike with
    | same => rfl
    | queries before firstQuery secondQuery after unmarked firstClosed secondClosed ended alike =>
      obtain ⟨scheme, authority, path, pathUnmarked, cut⟩ := cut_of_query unmarked
      simp only [cut, partsOfRest_unbroken pathUnmarked firstClosed ended,
        partsOfRest_unbroken pathUnmarked secondClosed ended, maskQuery_of_alike alike]

/-! ### What is read of alike URLs -/

theorem exists_masked_of_alike {first second : String} (alike : Alike first second) :
    first = second ∨ ∃ firstUrl secondUrl, ofText first.toList = .ok firstUrl ∧
      ofText second.toList = .ok secondUrl ∧ firstUrl.masked = secondUrl.masked := by
  rcases alike with same | ⟨texts, ⟨firstUrl, firstRead⟩, ⟨secondUrl, secondRead⟩⟩
  · exact Or.inl same
  · exact Or.inr ⟨firstUrl, secondUrl, firstRead, secondRead,
      masked_of_alike texts firstRead secondRead⟩

/-- Alike URLs are shown the same. -/
theorem redact_of_alike {first second : String} (alike : Alike first second) :
    redact first = redact second := by
  rcases exists_masked_of_alike alike with rfl | ⟨_, _, firstRead, secondRead, agree⟩
  · rfl
  · unfold redact redactText
    rw [firstRead, secondRead]
    exact congrArg (fun url => Except.ok (String.ofList url.toText)) agree

/-- The scheme is outside of what is masked. -/
theorem schemeOf_of_alike {first second : String} (alike : Alike first second) :
    schemeOf first = schemeOf second := by
  rcases exists_masked_of_alike alike with rfl | ⟨_, _, firstRead, secondRead, agree⟩
  · rfl
  · unfold schemeOf
    rw [firstRead, secondRead]
    exact congrArg (fun url => Except.ok (String.ofList url.scheme)) agree

theorem ne_nil_of_alike {first second : List Char} (alike : AlikeTexts first second) :
    first = second ∨ first ≠ [] ∧ second ≠ [] := by
  cases alike with
  | passwords front user firstPassword secondPassword place =>
    refine Or.inr ⟨?_, ?_⟩ <;> simp
  | rests alike =>
    cases alike with
    | same => exact Or.inl rfl
    | queries before firstQuery secondQuery after =>
      refine Or.inr ⟨?_, ?_⟩ <;> simp

/-- Of alike texts both are empty or none is. -/
theorem isEmpty_of_alike {first second : String} (alike : Alike first second) :
    first.isEmpty = second.isEmpty := by
  rcases alike with rfl | ⟨texts, _, _⟩
  · rfl
  · rcases ne_nil_of_alike texts with same | ⟨firstFilled, secondFilled⟩
    · rw [String.toList_inj.mp same]
    · have filled {text : String} (visible : text.toList ≠ []) : text.isEmpty = false := by
        rw [Bool.eq_false_iff]
        intro empty
        rw [String.isEmpty_iff.mp empty] at visible
        exact visible rfl
      rw [filled firstFilled, filled secondFilled]

end CatalogReader.Url
