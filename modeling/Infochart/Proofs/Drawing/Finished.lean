import Infochart.Drawing.Document
import Infochart.Proofs.Text.Blank
import Infochart.Proofs.Text.Search

/-!
# Finishing a document twice

A document is finished if no blanks are around it, if it has its name space (or no root tag that could hold
one) and if it begins with a declaration. These are exactly the documents that finishing leaves alone
(`finalize_eq_self_iff`), and **what comes out of finishing is one of them unless only blanks went in**
(`isFinished_finalize_iff`). Of blanks nothing is left behind the declaration but its line feed, which
finishing once more trims; so the third time never changes anything.
-/

namespace Infochart.Drawing

/-- Whether a document has its name space, or no root tag to put it into. -/
def IsNamed (doc : List Char) : Prop :=
  nameSpaceAttribute <:+: doc ∨ ¬ "<svg".toList <:+: doc

/-- Whether nothing is missing in a document, and no blanks are around it. -/
structure IsFinished (doc : List Char) : Prop where
  trimmed : Text.trim doc = doc
  named : IsNamed doc
  declared : "<?xml".toList <+: doc

variable {doc svg : List Char}

/-! ## The name space -/

theorem withNameSpace_of_isNamed (h : IsNamed doc) : withNameSpace doc = doc := by
  unfold withNameSpace
  rcases h with hnamed | hroot
  · rw [if_pos (Text.contains_iff.2 hnamed)]
  · rw [Text.splitBefore_eq_none_iff.2 hroot]
    split
    · rfl
    · rfl

/-- A missing name space is put behind the beginning of a root tag. -/
theorem exists_withNameSpace (h : ¬ IsNamed doc) : ∃ a b, doc = a ++ "<svg".toList ++ b ∧
    withNameSpace doc = a ++ "<svg".toList ++ (' ' :: nameSpaceAttribute) ++ b := by
  unfold IsNamed at h
  push Not at h
  obtain ⟨hmissing, hroot⟩ := h
  cases hsplit : Text.splitBefore "<svg".toList doc with
  | none => exact absurd hroot (Text.splitBefore_eq_none_iff.1 hsplit)
  | some parts =>
    obtain ⟨a, rest⟩ := parts
    obtain ⟨rfl, b, rfl⟩ := Text.splitBefore_eq_some hsplit
    refine ⟨a, b, (List.append_assoc ..).symm, ?_⟩
    unfold withNameSpace
    rw [if_neg fun hcontains => hmissing (Text.contains_iff.1 hcontains), hsplit]
    simp

theorem isNamed_withNameSpace (doc : List Char) : IsNamed (withNameSpace doc) := by
  by_cases h : IsNamed doc
  · rwa [withNameSpace_of_isNamed h]
  · obtain ⟨a, b, -, heq⟩ := exists_withNameSpace h
    refine .inl ⟨a ++ "<svg".toList ++ [' '], b, ?_⟩
    simp [heq]

/-- The name space is put inside the document, so its ends stay as they are or the last is a quote. -/
theorem trim_withNameSpace (h : Text.trim doc = doc) :
    Text.trim (withNameSpace doc) = withNameSpace doc := by
  by_cases hnamed : IsNamed doc
  · rwa [withNameSpace_of_isNamed hnamed]
  · obtain ⟨a, b, rfl, heq⟩ := exists_withNameSpace hnamed
    rw [heq]
    rw [Text.trim_eq_self_iff] at h ⊢
    obtain ⟨hhead, hlast⟩ := h
    constructor
    · simpa [List.head?_append] using hhead
    · rw [List.getLast?_append] at hlast ⊢
      cases hb : b.getLast? with
      | none =>
        rw [List.getLast?_append]
        rintro c ⟨⟩
        decide
      | some d =>
        rw [hb] at hlast
        exact hlast

theorem withNameSpace_ne_nil (h : doc ≠ []) : withNameSpace doc ≠ [] := by
  by_cases hnamed : IsNamed doc
  · rwa [withNameSpace_of_isNamed hnamed]
  · obtain ⟨a, b, -, heq⟩ := exists_withNameSpace hnamed
    simp [heq]

/-! ## The declaration -/

theorem withDeclaration_of_declared (h : "<?xml".toList <+: doc) : withDeclaration doc = doc :=
  if_pos (List.isPrefixOf_iff_prefix.2 h)

theorem withDeclaration_of_undeclared (h : ¬ "<?xml".toList <+: doc) :
    withDeclaration doc = declaration ++ '\n' :: doc :=
  if_neg fun hstart => h (List.isPrefixOf_iff_prefix.1 hstart)

theorem declared_withDeclaration (doc : List Char) : "<?xml".toList <+: withDeclaration doc := by
  by_cases h : "<?xml".toList <+: doc
  · rwa [withDeclaration_of_declared h]
  · rw [withDeclaration_of_undeclared h]
    exact ⟨declaration.drop 5 ++ '\n' :: doc, rfl⟩

/-- The declaration has no root tag, and none reaches over the line feed behind it. -/
theorem IsNamed.withDeclaration (h : IsNamed doc) : IsNamed (withDeclaration doc) := by
  by_cases hdeclared : "<?xml".toList <+: doc
  · rwa [withDeclaration_of_declared hdeclared]
  · rw [withDeclaration_of_undeclared hdeclared]
    rcases h with hnamed | hroot
    · exact .inl (hnamed.trans ((List.suffix_cons ..).trans (List.suffix_append ..)).isInfix)
    · refine .inr fun hin => ?_
      rcases (Text.infix_append_cons_iff (by decide)).1 hin with hdeclaration | hdoc
      · exact absurd (Text.contains_iff.2 hdeclaration) (by decide)
      · exact hroot hdoc

theorem trim_withDeclaration (hne : doc ≠ []) (h : Text.trim doc = doc) :
    Text.trim (withDeclaration doc) = withDeclaration doc := by
  by_cases hdeclared : "<?xml".toList <+: doc
  · rwa [withDeclaration_of_declared hdeclared]
  · rw [withDeclaration_of_undeclared hdeclared]
    rw [Text.trim_eq_self_iff] at h ⊢
    constructor
    · rintro c ⟨⟩
      decide
    · obtain ⟨d, r, rfl⟩ := List.exists_cons_of_ne_nil hne
      rw [List.getLast?_append, List.getLast?_cons_cons, List.getLast?_cons]
      simpa [List.getLast?_cons] using h.2

/-! ## Both -/

theorem finalize_of_isFinished (h : IsFinished doc) : finalize doc = doc := by
  unfold finalize
  rw [h.trimmed, withNameSpace_of_isNamed h.named, withDeclaration_of_declared h.declared]

theorem isFinished_finalize (h : Text.allBlank svg = false) : IsFinished (finalize svg) := by
  have hne : Text.trim svg ≠ [] := by
    rw [Ne, Text.trim_eq_nil_iff, h]
    exact Bool.false_ne_true
  have htrim := trim_withNameSpace (Text.trim_trim svg)
  exact ⟨trim_withDeclaration (withNameSpace_ne_nil hne) htrim,
    (isNamed_withNameSpace _).withDeclaration, declared_withDeclaration _⟩

/-- Of blanks only the declaration and its line feed come out. -/
theorem finalize_of_allBlank (h : Text.allBlank svg = true) : finalize svg = declaration ++ ['\n'] := by
  unfold finalize
  rw [Text.trim_eq_nil_iff.2 h]
  rfl

theorem isFinished_finalize_iff : IsFinished (finalize svg) ↔ Text.allBlank svg = false := by
  cases hblank : Text.allBlank svg with
  | false => exact iff_of_true (isFinished_finalize hblank) rfl
  | true =>
    refine iff_of_false (fun h => ?_) Bool.noConfusion
    rw [finalize_of_allBlank hblank] at h
    exact absurd h.trimmed (by decide)

/-- What comes out begins with a declaration, so there is always more than blanks. -/
theorem allBlank_finalize (svg : List Char) : Text.allBlank (finalize svg) = false := by
  have hfirst : '<' ∈ finalize svg := (declared_withDeclaration _).subset (by decide)
  rw [← Bool.not_eq_true, Text.allBlank_iff]
  intro hall
  exact absurd (hall '<' hfirst) (by decide)

/-- **Finishing leaves alone what is finished, and nothing else.** -/
theorem finalize_eq_self_iff : finalize doc = doc ↔ IsFinished doc := by
  refine ⟨fun h => ?_, finalize_of_isFinished⟩
  rw [← h]
  exact isFinished_finalize (h ▸ allBlank_finalize doc)

theorem document_ofList (s : List Char) : document (String.ofList s) = String.ofList (finalize s) := by
  unfold document
  rw [String.toList_ofList]

/-- **Finishing a document again changes nothing exactly if there was more than blanks to finish.** The
    third time it never changes anything. -/
theorem document_document_iff (svg : String) :
    (document (document svg) = document svg ↔ ∃ c ∈ svg.toList, Text.isBlank c = false) ∧
      document (document (document svg)) = document (document svg) := by
  have hsvg : document svg = String.ofList (finalize svg.toList) := rfl
  have hblank : Text.allBlank svg.toList = false ↔ ∃ c ∈ svg.toList, Text.isBlank c = false := by
    simp [Text.allBlank]
  rw [hsvg, document_ofList, document_ofList, String.ofList_inj, String.ofList_inj,
    finalize_eq_self_iff, finalize_eq_self_iff, isFinished_finalize_iff]
  exact ⟨hblank, isFinished_finalize (allBlank_finalize _)⟩

/-- The line feed behind the declaration of an empty document is lost the second time. -/
theorem not_document_document : ¬ ∀ svg, document (document svg) = document svg := by
  intro h
  have hempty : finalize (finalize []) ≠ finalize [] := by decide
  exact hempty (String.ofList_inj.1 (h ""))

end Infochart.Drawing
