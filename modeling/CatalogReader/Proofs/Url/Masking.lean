/-
What masking leaves of a URL. An authority keeps its user and its place, and its password, if there
is one, becomes the mask; a query keeps the names of its fields in their order, and the values of
all fields but passwords. So what is masked once is not changed by masking it again. An authority
that was accepted is accepted without its password too, unless this held the one bracket without
which another one has no partner.
-/

import CatalogReader.Proofs.Url.Encoding
import CatalogReader.Proofs.Url.Writing

namespace CatalogReader.Url

open CatalogReader.Text

/-! ### User information -/

/-- User information whose password, if it has one, is masked. -/
def maskUserInfo (userInfo : List Char) : List Char :=
  match cutFirst? ':' userInfo with
  | none => userInfo
  | some (user, _) => user ++ ':' :: mask

theorem cutFirst?_maskUserInfo (userInfo : List Char) :
    cutFirst? ':' (maskUserInfo userInfo) =
      (cutFirst? ':' userInfo).map fun (user, _) => (user, mask) := by
  unfold maskUserInfo
  cases cut : cutFirst? ':' userInfo with
  | none => exact cut
  | some parts =>
    obtain ⟨user, password⟩ := parts
    obtain ⟨_, absent⟩ := (cutFirst?_eq_some_iff ':' _ _ _).mp cut
    exact (cutFirst?_eq_some_iff ':' _ _ _).mpr ⟨rfl, absent⟩

theorem maskUserInfo_maskUserInfo (userInfo : List Char) :
    maskUserInfo (maskUserInfo userInfo) = maskUserInfo userInfo := by
  have cut := cutFirst?_maskUserInfo userInfo
  rw [maskUserInfo, cut]
  unfold maskUserInfo
  cases cutFirst? ':' userInfo <;> rfl

theorem mem_of_mem_maskUserInfo {userInfo : List Char} {c : Char}
    (member : c ∈ maskUserInfo userInfo) : c ∈ userInfo ∨ c = ':' ∨ c = '*' := by
  unfold maskUserInfo at member
  cases cut : cutFirst? ':' userInfo with
  | none =>
    rw [cut] at member
    exact Or.inl member
  | some parts =>
    obtain ⟨user, password⟩ := parts
    obtain ⟨rfl, _⟩ := (cutFirst?_eq_some_iff ':' _ _ _).mp cut
    rw [cut] at member
    simp only [mask, List.mem_append, List.mem_cons, List.not_mem_nil] at member ⊢
    tauto

/-! ### Authorities -/

/-- An authority has no user information, or it has one in front of its last at sign. -/
theorem authority_cases (authority : List Char) :
    '@' ∉ authority ∨ ∃ userInfo place, authority = userInfo ++ '@' :: place ∧ '@' ∉ place := by
  by_cases member : '@' ∈ authority
  · obtain ⟨⟨userInfo, place⟩, found⟩ := Option.ne_none_iff_exists'.mp
      (mt (cutLast?_eq_none_iff '@' authority).mp (not_not_intro member))
    exact Or.inr ⟨userInfo, place, (cutLast?_eq_some_iff '@' _ _ _).mp found⟩
  · exact Or.inl member

theorem cutLast?_of_place {userInfo place : List Char} (placed : '@' ∉ place) :
    cutLast? '@' (userInfo ++ '@' :: place) = some (userInfo, place) :=
  (cutLast?_eq_some_iff '@' _ _ _).mpr ⟨rfl, placed⟩

theorem maskAuthority_of_notMem {authority : List Char} (absent : '@' ∉ authority) :
    maskAuthority authority = authority := by
  unfold maskAuthority
  rw [(cutLast?_eq_none_iff '@' authority).mpr absent]

theorem maskAuthority_of_place {userInfo place : List Char} (placed : '@' ∉ place) :
    maskAuthority (userInfo ++ '@' :: place) = maskUserInfo userInfo ++ '@' :: place := by
  unfold maskAuthority maskUserInfo
  rw [cutLast?_of_place placed]
  dsimp only
  cases cutFirst? ':' userInfo <;> rfl

theorem maskAuthority_maskAuthority (authority : List Char) :
    maskAuthority (maskAuthority authority) = maskAuthority authority := by
  obtain absent | ⟨userInfo, place, rfl, placed⟩ := authority_cases authority
  · rw [maskAuthority_of_notMem absent, maskAuthority_of_notMem absent]
  · rw [maskAuthority_of_place placed, maskAuthority_of_place placed, maskUserInfo_maskUserInfo]

theorem maskAuthority_eq_nil_iff (authority : List Char) :
    maskAuthority authority = [] ↔ authority = [] := by
  obtain absent | ⟨userInfo, place, rfl, placed⟩ := authority_cases authority
  · rw [maskAuthority_of_notMem absent]
  · simp [maskAuthority_of_place placed]

theorem mem_of_mem_maskAuthority {authority : List Char} {c : Char}
    (member : c ∈ maskAuthority authority) : c ∈ authority ∨ c = ':' ∨ c = '*' := by
  obtain absent | ⟨userInfo, place, rfl, placed⟩ := authority_cases authority
  · rw [maskAuthority_of_notMem absent] at member
    exact Or.inl member
  · rw [maskAuthority_of_place placed] at member
    rcases List.mem_append.mp member with inUserInfo | later
    · exact (mem_of_mem_maskUserInfo inUserInfo).imp_left (List.mem_append_left _)
    · exact Or.inl (List.mem_append_right _ later)

/-! ### What is accepted -/

/-- An authority is accepted if its brackets have partners, an address stands between them, and no
character hides a delimiter. -/
theorem checkAuthority_eq_ok_iff (authority : List Char) :
    checkAuthority authority = .ok () ↔
      ('[' ∈ authority ↔ ']' ∈ authority) ∧
        ('[' ∈ authority → checkBrackets authority = .ok ()) ∧
        ∀ c ∈ authority, hidingDelimiter c = false := by
  unfold checkAuthority
  by_cases opened : '[' ∈ authority
  · by_cases closed : ']' ∈ authority
    · cases checkBrackets authority <;> simp [opened, closed]
    · simp [opened, closed]
  · by_cases closed : ']' ∈ authority
    · simp [opened, closed]
    · simp [opened, closed]

/-- An address in brackets is looked for behind all at signs. -/
theorem checkBrackets_of_at (first second rest : List Char) :
    checkBrackets (first ++ '@' :: rest) = checkBrackets (second ++ '@' :: rest) := by
  have same {place : List Char} (placed : '@' ∉ place) (first second : List Char) :
      checkBrackets (first ++ '@' :: place) = checkBrackets (second ++ '@' :: place) := by
    unfold checkBrackets
    rw [cutLast?_of_place placed, cutLast?_of_place placed]
    rfl
  obtain absent | ⟨more, place, rfl, placed⟩ := authority_cases rest
  · exact same absent first second
  · simpa using same placed (first ++ '@' :: more) (second ++ '@' :: more)

/-- Without its password an accepted authority is accepted if its brackets still have partners. -/
theorem checkAuthority_maskAuthority_iff {authority : List Char}
    (accepted : checkAuthority authority = .ok ()) :
    checkAuthority (maskAuthority authority) = .ok () ↔
      ('[' ∈ maskAuthority authority ↔ ']' ∈ maskAuthority authority) := by
  obtain ⟨_, address, unhidden⟩ := (checkAuthority_eq_ok_iff authority).mp accepted
  rw [checkAuthority_eq_ok_iff]
  refine ⟨And.left, fun paired => ⟨paired, fun opened => ?_, fun c member => ?_⟩⟩
  · have stillOpened := (mem_of_mem_maskAuthority opened).resolve_right (by decide)
    rw [← address stillOpened]
    obtain absent | ⟨userInfo, place, rfl, placed⟩ := authority_cases authority
    · rw [maskAuthority_of_notMem absent]
    · rw [maskAuthority_of_place placed]
      exact checkBrackets_of_at _ _ _
  · rcases mem_of_mem_maskAuthority member with inside | rfl | rfl
    · exact unhidden c inside
    · decide
    · decide

/-! ### Queries -/

theorem maskField_maskField (field : Field) : maskField (maskField field) = maskField field := by
  unfold maskField
  by_cases password : field.name = passwordName
  · simp [password]
  · simp [password]

theorem name_maskField (field : Field) : (maskField field).name = field.name := by
  unfold maskField
  split <;> rfl

/-- The fields of a masked query are those of the query, with masks for passwords. -/
theorem fieldsOfQuery_maskQuery (query : List Char) :
    fieldsOfQuery (maskQuery query) = (fieldsOfQuery query).map maskField := by
  unfold maskQuery
  dsimp only
  split
  · exact fieldsOfQuery_queryOfFields _
  case isFalse none =>
    refine (List.map_id _).symm.trans (List.map_congr_left fun field member => ?_)
    have other : field.name ≠ passwordName := by
      intro password
      exact none (List.any_eq_true.mpr ⟨field, member, by simp [password]⟩)
    exact (if_neg other).symm

/-- A query without passwords is kept as it was written. -/
theorem maskQuery_of_none {query : List Char}
    (none : ∀ field ∈ fieldsOfQuery query, field.name ≠ passwordName) :
    maskQuery query = query := by
  unfold maskQuery
  refine if_neg fun some => ?_
  obtain ⟨field, member, password⟩ := List.any_eq_true.mp some
  exact none field member (by simpa using password)

theorem maskQuery_maskQuery (query : List Char) :
    maskQuery (maskQuery query) = maskQuery query := by
  by_cases some : ∃ field ∈ fieldsOfQuery query, field.name = passwordName
  · obtain ⟨field, member, password⟩ := some
    have found : ((fieldsOfQuery query).any fun field => field.name == passwordName) = true :=
      List.any_eq_true.mpr ⟨field, member, by simp [password]⟩
    have foundAgain : (((fieldsOfQuery query).map maskField).any
        fun field => field.name == passwordName) = true := by
      refine List.any_eq_true.mpr ⟨maskField field, List.mem_map_of_mem member, ?_⟩
      simp [name_maskField, password]
    have written : maskQuery query = queryOfFields ((fieldsOfQuery query).map maskField) :=
      if_pos found
    rw [maskQuery, fieldsOfQuery_maskQuery, if_pos foundAgain, List.map_map, written]
    exact congrArg queryOfFields (List.map_congr_left fun field _ => maskField_maskField field)
  · have none := maskQuery_of_none fun field member password => some ⟨field, member, password⟩
    rw [none, none]

theorem plain_of_mem_maskQuery {query : List Char} {c : Char} (member : c ∈ maskQuery query) :
    c ∈ query ∨ c ≠ '#' ∧ ¬IsBreak c := by
  unfold maskQuery at member
  dsimp only at member
  split at member
  · obtain ⟨mark, breaks⟩ := plain_of_mem_queryOfFields member
    exact Or.inr ⟨mark, by simpa [IsBreak, not_or] using breaks⟩
  · exact Or.inl member

/-! ### URLs -/

theorem masked_masked (url : Url) : url.masked.masked = url.masked := by
  unfold masked
  simp only [maskAuthority_maskAuthority, maskQuery_maskQuery]

theorem location_masked_of_empty {url : Url} (empty : url.authority = []) :
    url.masked.location = url.location := by
  have same : maskAuthority url.authority = url.authority := by
    rw [empty]
    rfl
  unfold masked location writesAuthority
  simp only [same]

/-- The parts of a masked URL keep to their places. -/
theorem Sound.masked {url : Url} (sound : url.Sound) : url.masked.Sound where
  scheme := sound.scheme
  authority := by
    intro c member
    rcases mem_of_mem_maskAuthority member with inside | rfl | rfl
    · exact sound.authority c inside
    · rfl
    · rfl
  path := sound.path
  query := by
    intro member
    rcases plain_of_mem_maskQuery member with inside | plain
    · exact sound.query inside
    · exact plain.1 rfl
  unbroken := by
    intro c member
    have parts := sound.unbroken c
    simp only [Url.masked, List.mem_append] at member parts
    rcases member with ((inAuthority | inPath) | inQuery) | inFragment
    · rcases mem_of_mem_maskAuthority inAuthority with inside | rfl | rfl
      · exact parts (by tauto)
      · simp [IsBreak]
      · simp [IsBreak]
    · exact parts (by tauto)
    · rcases plain_of_mem_maskQuery inQuery with inside | plain
      · exact parts (by tauto)
      · exact plain.2
    · exact parts (by tauto)
  separated := fun filled => sound.separated (mt (maskAuthority_eq_nil_iff _).mpr filled)
  unschemed := fun none empty =>
    sound.unschemed none ((maskAuthority_eq_nil_iff _).mp empty)

/-! ### Redaction -/

theorem redact_of_read {text : String} {url : Url} (read : ofText text.toList = .ok url) :
    redact text = .ok (String.ofList url.masked.toText) := by
  unfold redact redactText
  rw [read]
  rfl

theorem redact_of_refused {text : String} {fault : Fault}
    (refused : ofText text.toList = .error fault) : redact text = .error fault := by
  unfold redact redactText
  rw [refused]
  rfl

theorem exists_of_redact {text shown : String} (redacted : redact text = .ok shown) :
    ∃ url, ofText text.toList = .ok url := by
  cases read : ofText text.toList with
  | error fault => cases (redact_of_refused read).symm.trans redacted
  | ok url => exact ⟨url, rfl⟩

end CatalogReader.Url
