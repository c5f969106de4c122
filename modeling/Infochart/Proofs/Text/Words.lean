import Infochart.Proofs.Text.Blank
import Infochart.Text.Join
import Mathlib.Data.List.Basic

/-!
# Laws of words

A word is a run of characters without a blank, and the words of a text are such runs
(`isWord_of_mem_words`). What follows a text from a blank on is cut into words by itself (`words_append`),
and from this one equation comes that **words with single spaces between them are the words of the whole**
(`words_join`), and that trimming a text takes no word from it (`words_trim`).
-/

namespace Infochart.Text

/-- Some characters, none of which is blank. -/
structure IsWord (w : List Char) : Prop where
  nonempty : w ≠ []
  full : ∀ c ∈ w, isBlank c = false

variable {w s : List Char} {ws : List (List Char)} {c d : Char}

/-! ## The cut into words -/

theorem words_cons_of_blank (h : isBlank c = true) : words (c :: s) = words s := by
  rw [words.eq_def]
  exact if_pos h

/-- A character in front of a blank, or at the end, is a word of its own. -/
theorem words_cons_of_end (hc : isBlank c = false) (hs : ∀ d ∈ s.head?, isBlank d = true) :
    words (c :: s) = [c] :: words s := by
  cases s with
  | nil => simp [words, hc]
  | cons d r =>
    rw [words.eq_def]
    simp [hc, hs d rfl]

/-- A character in front of a word belongs to it. -/
theorem words_cons_of_word (hc : isBlank c = false) (hd : isBlank d = false)
    (h : words (d :: s) = w :: ws) : words (c :: d :: s) = (c :: w) :: ws := by
  rw [words.eq_def]
  simp [hc, hd, h]

theorem words_ne_nil (hc : isBlank c = false) : words (c :: s) ≠ [] := by
  induction s generalizing c with
  | nil =>
    rw [words_cons_of_end hc (by simp)]
    exact List.cons_ne_nil _ _
  | cons d r ih =>
    by_cases hd : isBlank d = true
    · rw [words_cons_of_end hc (by simpa using hd)]
      exact List.cons_ne_nil _ _
    · rw [Bool.not_eq_true] at hd
      obtain ⟨w, ws, hwords⟩ := List.exists_cons_of_ne_nil (ih hd)
      rw [words_cons_of_word hc hd hwords]
      exact List.cons_ne_nil _ _

/-- **What follows from a blank on is cut into words by itself**, and so is nothing at all. -/
theorem words_append (hs : ∀ d ∈ s.head?, isBlank d = true) (t : List Char) :
    words (t ++ s) = words t ++ words s := by
  fun_induction words t with
  | case1 => rfl
  | case2 c r hc ih =>
    rw [List.cons_append, words_cons_of_blank hc, ih]
  | case3 c hc =>
    rw [List.cons_append, List.nil_append, words_cons_of_end (by simpa using hc) hs]
    rfl
  | case4 c hc d r hd ih =>
    have hend : ∀ e ∈ (d :: r ++ s).head?, isBlank e = true := by
      rintro e ⟨⟩
      exact hd
    rw [List.cons_append, words_cons_of_end (by simpa using hc) hend, ih]
    rfl
  | case5 c hc d r hd hnone ih =>
    exact absurd hnone (words_ne_nil (by simpa using hd))
  | case6 c hc d r hd w ws hwords ih =>
    rw [hwords, List.cons_append, List.cons_append] at ih
    rw [hwords, List.cons_append, List.cons_append,
      words_cons_of_word (by simpa using hc) (by simpa using hd) ih]
    rfl

theorem words_eq_singleton (hw : IsWord w) : words w = [w] := by
  obtain ⟨hne, hfull⟩ := hw
  induction w with
  | nil => exact absurd rfl hne
  | cons c r ih =>
    have hc := hfull c List.mem_cons_self
    cases r with
    | nil => exact words_cons_of_end hc (by simp)
    | cons d r =>
      have hrest := ih (List.cons_ne_nil _ _) fun e he => hfull e (List.mem_cons_of_mem _ he)
      exact words_cons_of_word hc (hfull d (by simp)) hrest

theorem IsWord.cons (hc : isBlank c = false) (hw : IsWord w) : IsWord (c :: w) :=
  ⟨List.cons_ne_nil _ _, List.forall_mem_cons.2 ⟨hc, hw.full⟩⟩

theorem isWord_singleton (hc : isBlank c = false) : IsWord [c] :=
  ⟨List.cons_ne_nil _ _, List.forall_mem_singleton.2 hc⟩

theorem isWord_of_mem_words (h : w ∈ words s) : IsWord w := by
  fun_induction words s generalizing w with
  | case1 => cases h
  | case2 c r hc ih => exact ih h
  | case3 c hc =>
    obtain rfl := List.mem_singleton.1 h
    exact isWord_singleton (by simpa using hc)
  | case4 c hc d r hd ih =>
    rcases List.mem_cons.1 h with rfl | h
    · exact isWord_singleton (by simpa using hc)
    · exact ih h
  | case5 c hc d r hd hnone ih =>
    rw [hnone] at h
    obtain rfl := List.mem_singleton.1 h
    exact isWord_singleton (by simpa using hc)
  | case6 c hc d r hd v vs hwords ih =>
    rw [hwords] at h ih
    rcases List.mem_cons.1 h with rfl | h
    · exact (ih List.mem_cons_self).cons (by simpa using hc)
    · exact ih (List.mem_cons_of_mem _ h)

/-! ## Words with spaces between them -/

theorem join_cons_cons (sep : Char) (v w : List Char) (ws : List (List Char)) :
    join sep (v :: w :: ws) = v ++ sep :: join sep (w :: ws) := rfl

theorem words_join (h : ∀ w ∈ ws, IsWord w) : words (join ' ' ws) = ws := by
  induction ws with
  | nil => rfl
  | cons v ws ih =>
    have hv := h v List.mem_cons_self
    cases ws with
    | nil => exact words_eq_singleton hv
    | cons w ws =>
      have hrest := ih fun u hu => h u (List.mem_cons_of_mem _ hu)
      have hspace : isBlank ' ' = true := by decide
      rw [join_cons_cons, words_append, words_eq_singleton hv, words_cons_of_blank hspace, hrest]
      · rfl
      · rintro d ⟨⟩
        exact hspace

/-! ## Trimming, and a change to each character -/

theorem words_trimStart (s : List Char) : words (trimStart s) = words s := by
  induction s with
  | nil => rfl
  | cons c r ih =>
    unfold trimStart
    rw [List.dropWhile_cons]
    split
    · rename_i hc
      rw [words_cons_of_blank hc]
      exact ih
    · rfl

theorem words_of_allBlank (h : allBlank s = true) : words s = [] := by
  rw [← words_trimStart, trimStart_eq_nil_iff.2 h]
  rfl

theorem words_trimEnd (s : List Char) : words (trimEnd s) = words s := by
  obtain ⟨t, ht, hs⟩ := trimEnd_append_trimmed s
  have hhead : ∀ d ∈ t.head?, isBlank d = true :=
    fun d hd => allBlank_iff.1 ht d (List.mem_of_mem_head? hd)
  conv_rhs => rw [hs, words_append hhead, words_of_allBlank ht, List.append_nil]

/-- **Trimming takes no word from a text.** -/
theorem words_trim (s : List Char) : words (trim s) = words s :=
  (words_trimEnd _).trans (words_trimStart s)

/-- What makes no blank and takes none away changes the words one by one. -/
theorem words_map {f : Char → Char} (hf : ∀ c, isBlank (f c) = isBlank c) (s : List Char) :
    words (s.map f) = (words s).map (List.map f) := by
  fun_induction words s with
  | case1 => rfl
  | case2 c r hc ih =>
    rw [List.map_cons, words_cons_of_blank ((hf c).trans hc), ih]
  | case3 c hc =>
    rw [List.map_cons, List.map_nil, words_cons_of_end (by simpa [hf] using hc) (by simp)]
    rfl
  | case4 c hc d r hd ih =>
    rw [List.map_cons, words_cons_of_end (by simpa [hf] using hc) (by simpa [hf] using hd), ih]
    rfl
  | case5 c hc d r hd hnone ih =>
    exact absurd hnone (words_ne_nil (by simpa using hd))
  | case6 c hc d r hd w ws hwords ih =>
    rw [hwords, List.map_cons, List.map_cons] at ih
    rw [hwords, List.map_cons, List.map_cons,
      words_cons_of_word (by simpa [hf] using hc) (by simpa [hf] using hd) ih]
    rfl

end Infochart.Text
