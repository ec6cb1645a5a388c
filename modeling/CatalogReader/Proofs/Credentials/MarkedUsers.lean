/-
URLs whose user name holds a question mark or a number sign. Such a mark ends the authority in front
of the password, so the password is read as a part of the query or of the fragment. It is masked
there only where it stands in a field that is named like a password; otherwise the whole text is
shown, and with it every password but for its tabs and line breaks, which are not read at all.
-/

import CatalogReader.Proofs.Credentials.UserInfo

namespace CatalogReader.Url

open CatalogReader.Text

/-! ### Behind a mark -/

theorem partsOfRest_of_fragment (rest : List Char) :
    partsOfRest ('#' :: rest) = ([], [], rest) := by
  have cut : cutAt '#' ('#' :: rest) = ([], rest) := cutAt_append_cons List.not_mem_nil rest
  unfold partsOfRest
  rw [cut]
  rfl

theorem partsOfRest_of_question (rest : List Char) :
    partsOfRest ('?' :: rest) = ([], cutAt '#' rest) := by
  have behind (query : List Char) : cutAt '?' ('?' :: query) = ([], query) :=
    cutAt_append_cons List.not_mem_nil query
  have front : '#' ≠ '?' := by decide
  unfold partsOfRest
  rcases cutAt_cases '#' rest with ⟨absent, whole⟩ | ⟨query, fragment, rfl, absent, cut⟩
  · rw [whole, cutAt_of_notMem (List.not_mem_cons_of_ne_of_not_mem front absent)]
    simp only [behind]
  · rw [cut, ← List.cons_append,
      cutAt_append_cons (List.not_mem_cons_of_ne_of_not_mem front absent)]
    simp only [behind]

/-- Behind a mark of the query or the fragment there is no path. -/
theorem path_of_mark {mark : Char} (marks : mark = '?' ∨ mark = '#') (rest : List Char) :
    (partsOfRest (mark :: rest)).1 = [] := by
  rcases marks with rfl | rfl
  · rw [partsOfRest_of_question]
  · rw [partsOfRest_of_fragment]

theorem prefix_of_cutAt (mark : Char) (text : List Char) :
    text <+: (cutAt mark text).1 ++ mark :: (cutAt mark text).2 := by
  rcases cutAt_cases mark text with ⟨-, whole⟩ | ⟨before, after, same, -, cut⟩
  · rw [whole]
    exact List.prefix_append _ _
  · have whole : text <+: before ++ mark :: after := same ▸ List.prefix_refl text
    rwa [cut]

/-- Of the text behind a mark at most a second mark at its end is lost. -/
theorem prefixes_of_partsOfRest {mark : Char} (marks : mark = '?' ∨ mark = '#')
    {first second : List Char} (same : partsOfRest (mark :: first) = partsOfRest (mark :: second)) :
    ∃ whole, first <+: whole ∧ second <+: whole := by
  rcases marks with rfl | rfl
  · rw [partsOfRest_of_question, partsOfRest_of_question, Prod.mk.injEq] at same
    have later := prefix_of_cutAt '#' second
    rw [← same.2] at later
    exact ⟨_, prefix_of_cutAt '#' first, later⟩
  · rw [partsOfRest_of_fragment, partsOfRest_of_fragment, Prod.mk.injEq, Prod.mk.injEq] at same
    exact ⟨second, same.2.2 ▸ List.prefix_refl first, List.prefix_refl second⟩

/-- A password without an at sign is found in any text that goes on behind it. -/
theorem eq_of_prefixes {lead first second rest whole : List Char} (firstClosed : '@' ∉ first)
    (secondClosed : '@' ∉ second) (one : lead ++ ':' :: (first ++ '@' :: rest) <+: whole)
    (other : lead ++ ':' :: (second ++ '@' :: rest) <+: whole) : first = second := by
  obtain ⟨firstTail, rfl⟩ := one
  obtain ⟨secondTail, same⟩ := other
  simp only [List.append_assoc, List.cons_append, List.append_cancel_left_eq, List.cons.injEq,
    true_and] at same
  have firstCut := (cutFirst?_eq_some_iff '@' _ first (rest ++ firstTail)).mpr ⟨rfl, firstClosed⟩
  have secondCut := (cutFirst?_eq_some_iff '@' _ second _).mpr ⟨same.symm, secondClosed⟩
  exact (Prod.mk.inj (Option.some.inj (firstCut.symm.trans secondCut))).1

/-! ### What is read -/

variable {scheme before later rest : List Char} {mark : Char}

/-- What follows the mark in the user name of a URL. -/
def behindMark (later password rest : List Char) : List Char :=
  unbroken later ++ ':' :: (unbroken password ++ '@' :: unbroken rest)

/-- The authority ends at the mark. -/
theorem parts_of_markedUser (isScheme : IsScheme scheme) (marks : mark = '?' ∨ mark = '#')
    (inside : ∀ c ∈ before, endsAuthority c = false) {password : List Char} {url : Url}
    (read : ofText (withPassword scheme (before ++ mark :: later) password rest) = .ok url) :
    url.scheme = scheme ∧ url.authority = unbroken before ∧
      (url.path, url.query, url.fragment) =
        partsOfRest (mark :: behindMark later password rest) := by
  have kept : mark ≠ '\t' ∧ mark ≠ '\r' ∧ mark ≠ '\n' := by
    rcases marks with rfl | rfl <;> decide
  have ends : endsAuthority mark = true := by
    rcases marks with rfl | rfl <;> rfl
  have behind : unbroken ((before ++ mark :: later) ++ ':' :: (password ++ '@' :: rest)) =
      unbroken before ++ mark :: behindMark later password rest := by
    rw [unbroken_append, unbroken_append, unbroken_cons kept, unbroken_cons (by decide),
      unbroken_append, unbroken_cons (by decide), List.append_assoc]
    rfl
  have cut : cutAuthority ('/' :: '/' :: (unbroken before ++
      mark :: behindMark later password rest)) =
        (unbroken before, mark :: behindMark later password rest) :=
    cutAuthority_of_closed (fun c member => inside c (mem_of_mem_unbroken member)) ends
  rw [eq_of_ofText read]
  unfold withPassword
  rw [cutScheme_of_written isScheme.begins isScheme.sound, behind]
  dsimp only
  rw [cut]
  exact ⟨isScheme.small, rfl, rfl⟩

/-- Whether no field of the query that is read is named like a password. -/
def NamesNoPassword (text : List Char) : Prop :=
  ∀ url, ofText text = .ok url → ∀ field ∈ fieldsOfQuery url.query, field.name ≠ passwordName

/-- Nothing of such a URL is masked. -/
theorem masked_of_markedUser (isScheme : IsScheme scheme) (marks : mark = '?' ∨ mark = '#')
    (inside : ∀ c ∈ before, endsAuthority c = false) (closed : '@' ∉ before)
    {password : List Char} {url : Url}
    (read : ofText (withPassword scheme (before ++ mark :: later) password rest) = .ok url)
    (unnamed : NamesNoPassword (withPassword scheme (before ++ mark :: later) password rest)) :
    url.masked = url := by
  obtain ⟨-, authority, -⟩ := parts_of_markedUser isScheme marks inside read
  unfold masked
  rw [maskQuery_of_none (unnamed url read), authority,
    maskAuthority_of_notMem (mt mem_of_mem_unbroken closed), ← authority]

/-! ### What is shown -/

/-- URLs that differ behind their paths only are shown the same if their queries and fragments are
the same. -/
theorem behindPath_of_toText {first second : Url} (isScheme : IsScheme second.scheme)
    (scheme : first.scheme = second.scheme) (authority : first.authority = second.authority)
    (path : first.path = second.path) (same : first.toText = second.toText) :
    first.behindPath = second.behindPath := by
  have location : first.location = second.location := by
    unfold location writesAuthority
    rw [scheme, authority, path]
  rw [toText_of_scheme isScheme, toText_of_scheme (scheme ▸ isScheme), scheme, location] at same
  exact List.append_cancel_left (List.cons.inj (List.append_cancel_left same)).2

/-- A text is read by what is left when it is cleaned. -/
theorem ofText_of_cleaned {first second : List Char} (same : cleaned first = cleaned second) :
    ofText first = ofText second := by
  unfold ofText
  rw [same]

/-- Two passwords behind a user name with a mark are shown the same just if they are the same but
for tabs and line breaks. -/
theorem redact_eq_iff_of_markedUser {firstText secondText : String} {first second : List Char}
    (isScheme : IsScheme scheme) (marks : mark = '?' ∨ mark = '#')
    (inside : ∀ c ∈ before, endsAuthority c = false) (closed : '@' ∉ before)
    (firstWhole : firstText.toList = withPassword scheme (before ++ mark :: later) first rest)
    (secondWhole : secondText.toList = withPassword scheme (before ++ mark :: later) second rest)
    (firstClosed : '@' ∉ first) (secondClosed : '@' ∉ second) {firstUrl secondUrl : Url}
    (firstRead : ofText firstText.toList = .ok firstUrl)
    (secondRead : ofText secondText.toList = .ok secondUrl)
    (firstUnnamed : NamesNoPassword firstText.toList)
    (secondUnnamed : NamesNoPassword secondText.toList) :
    redact firstText = redact secondText ↔ unbroken first = unbroken second := by
  have cleanText (password : List Char) :
      cleaned (withPassword scheme (before ++ mark :: later) password rest) =
        cleaned scheme ++ unbroken (':' :: '/' :: '/' :: ((before ++ mark :: later) ++ ':' ::
          (password ++ '@' :: rest))) := cleaned_append_cons (by decide) scheme _
  constructor
  · intro same
    rw [redact_of_read firstRead, redact_of_read secondRead] at same
    rw [firstWhole] at firstRead firstUnnamed
    rw [secondWhole] at secondRead secondUnnamed
    rw [masked_of_markedUser isScheme marks inside closed firstRead firstUnnamed,
      masked_of_markedUser isScheme marks inside closed secondRead secondUnnamed] at same
    obtain ⟨firstScheme, firstAuthority, firstParts⟩ :=
      parts_of_markedUser isScheme marks inside firstRead
    obtain ⟨secondScheme, secondAuthority, secondParts⟩ :=
      parts_of_markedUser isScheme marks inside secondRead
    have firstPath : firstUrl.path = [] :=
      (congrArg Prod.fst firstParts).trans (path_of_mark marks _)
    have secondPath : secondUrl.path = [] :=
      (congrArg Prod.fst secondParts).trans (path_of_mark marks _)
    have behind := behindPath_of_toText (secondScheme ▸ isScheme)
      (firstScheme.trans secondScheme.symm) (firstAuthority.trans secondAuthority.symm)
      (firstPath.trans secondPath.symm) (String.ofList_injective (Except.ok.inj same))
    have parts {url : Url} (sound : url.Sound) (path : url.path = []) :
        partsOfRest url.behindPath = (url.path, url.query, url.fragment) := by
      rw [path]
      exact partsOfRest_marked (List.forall_mem_nil _) sound.query url.fragment
    have read := (parts (sound_of_ofText firstRead) firstPath).symm.trans
      ((congrArg partsOfRest behind).trans (parts (sound_of_ofText secondRead) secondPath))
    rw [firstParts, secondParts] at read
    obtain ⟨whole, one, other⟩ := prefixes_of_partsOfRest marks read
    exact eq_of_prefixes (mt mem_of_mem_unbroken firstClosed) (mt mem_of_mem_unbroken secondClosed)
      one other
  · intro same
    have behind : cleaned firstText.toList = cleaned secondText.toList := by
      rw [firstWhole, secondWhole, cleanText, cleanText]
      simp only [unbroken_append, unbroken_cons, same, ne_eq, Char.reduceEq, not_false_eq_true,
        and_self]
    unfold redact redactText
    rw [ofText_of_cleaned behind]

end CatalogReader.Url
