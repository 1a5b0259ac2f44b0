import RubyStubs.Text.Blank
import Mathlib.Data.List.DropRight
import Mathlib.Logic.Relation

namespace RubyStubs.Text

def inName (c : Char) : Bool := c.isAlphanum || c == '_' || 128 ≤ c.toNat

/-- What stands in front of the first name of a path: no part of that name, and no `::`. -/
structure Opens (before : List Char) : Prop where
  noName : ∀ c ∈ before.getLast?, inName c = false
  noColons : ¬ [':', ':'] <:+ before

-- Not decided as a statement about every character: there are too many of them.
instance (before : List Char) : Decidable (Opens before) :=
  decidable_of_iff ((before.getLast?.all fun c => !inName c) = true ∧ ¬ [':', ':'] <:+ before) (by
    simp only [Option.all_eq_true, Bool.not_eq_true']
    exact ⟨fun h => ⟨h.1, h.2⟩, fun h => ⟨h.noName, h.noColons⟩⟩)

inductive Anchors : List Char → List Char → Prop
  | mk {before after : List Char} (hbefore : Opens before) (hafter : ∀ c ∈ after.head?, inName c = false) :
      Anchors (before ++ 'T' :: after) (before ++ ':' :: ':' :: 'T' :: after)

def Anchored (s t : String) : Prop := Relation.ReflTransGen Anchors s.toList t.toList

def IsPath (s : String) : Prop := ∀ p ∈ namePieces s.toList, p ≠ [] ∧ ∀ c ∈ p, inName c = true

instance (s : String) : Decidable (IsPath s) :=
  decidable_of_iff (∀ p ∈ namePieces s.toList, p ≠ [] ∧ p.all inName = true) (by
    simp only [IsPath, List.all_eq_true])

section Pieces

variable {cs before after : List Char} {x : Char}

theorem namePieces_ne_nil (cs : List Char) : namePieces cs ≠ [] := by
  fun_cases namePieces cs <;> simp

theorem inName_of_mem_cons {c : Char} {p : List Char} {ps : List (List Char)}
    (h : ∀ q ∈ (c :: p) :: ps, ∀ d ∈ q, inName d = true) :
    inName c = true ∧ ∀ q ∈ p :: ps, ∀ d ∈ q, inName d = true := by
  rw [List.forall_mem_cons, List.forall_mem_cons] at h
  exact ⟨h.1.1, List.forall_mem_cons.mpr ⟨h.1.2, h.2⟩⟩

theorem inName_or_colons (hcs : ∀ p ∈ namePieces cs, ∀ c ∈ p, inName c = true)
    (h : cs = before ++ x :: 'T' :: after) : inName x = true ∨ x = ':' ∧ ∃ b, before = b ++ [':'] := by
  fun_induction namePieces cs generalizing before with
  | case1 => simp at h
  | case2 cs ih =>
    rcases before with _ | ⟨a, _ | ⟨b, before⟩⟩
    · cases h
    · cases h
      exact .inr ⟨rfl, [], rfl⟩
    · cases h
      obtain hx | ⟨hx, b, rfl⟩ := ih (fun p hp => hcs p (List.mem_cons_of_mem _ hp)) rfl
      · exact .inl hx
      · exact .inr ⟨hx, ':' :: ':' :: b, rfl⟩
  | case3 c cs hc he ih => exact absurd he (namePieces_ne_nil cs)
  | case4 c cs hc p ps he ih =>
    obtain ⟨hfirst, hrest⟩ := inName_of_mem_cons hcs
    rw [he] at ih
    rcases before with _ | ⟨a, before⟩
    · cases h
      exact .inl hfirst
    · rw [List.cons_append, List.cons.injEq] at h
      obtain hx | ⟨hx, b, rfl⟩ := ih hrest h.2
      · exact .inl hx
      · exact .inr ⟨hx, a :: b, rfl⟩

theorem inName_of_colons (hcs : ∀ p ∈ namePieces cs, ∀ c ∈ p, inName c = true)
    (hne : ∀ p ∈ (namePieces cs).tail, p ≠ []) (h : cs = before ++ ':' :: ':' :: 'T' :: after) :
    (before = [] ∧ [] ∈ (namePieces cs).head?) ∨ ∃ b x, before = b ++ [x] ∧ inName x = true := by
  fun_induction namePieces cs generalizing before with
  | case1 => simp at h
  | case2 cs ih =>
    rcases before with _ | ⟨a, _ | ⟨b, before⟩⟩
    · exact .inl ⟨rfl, rfl⟩
    · cases h
      -- A third colon is left over, and belongs to no name.
      obtain ⟨p, ps, he⟩ := List.exists_cons_of_ne_nil (namePieces_ne_nil ('T' :: after))
      have hcolon := hcs (':' :: p) (by simp [namePieces, he]) ':' List.mem_cons_self
      exact absurd hcolon (by decide)
    · cases h
      obtain ⟨rfl, hhead⟩ | ⟨b, x, rfl, hx⟩ := ih (fun p hp => hcs p (List.mem_cons_of_mem _ hp))
        (fun p hp => hne p (List.mem_of_mem_tail hp)) rfl
      · exact absurd rfl (hne [] (List.mem_of_mem_head? hhead))
      · exact .inr ⟨':' :: ':' :: b, x, rfl, hx⟩
  | case3 c cs hc he ih => exact absurd he (namePieces_ne_nil cs)
  | case4 c cs hc p ps he ih =>
    obtain ⟨hfirst, hrest⟩ := inName_of_mem_cons hcs
    rw [he] at ih
    rcases before with _ | ⟨a, before⟩
    · cases h
      exact absurd rfl (hc _ rfl)
    · rw [List.cons_append, List.cons.injEq] at h
      rw [h.1] at hfirst
      obtain ⟨rfl, -⟩ | ⟨b, x, rfl, hx⟩ := ih hrest hne h.2
      · exact .inr ⟨[], a, rfl, hfirst⟩
      · exact .inr ⟨a :: b, x, rfl, hx⟩

end Pieces

namespace IsPath

variable {s : String} {before after : List Char}

theorem eq_nil_of_opens (hs : IsPath s) (hbefore : Opens before) (h : s.toList = before ++ 'T' :: after) :
    before = [] := by
  rcases before.eq_nil_or_concat with rfl | ⟨before, x, rfl⟩
  · rfl
  · rw [List.concat_eq_append] at *
    rw [List.append_assoc] at h
    obtain hx | ⟨rfl, b, rfl⟩ := inName_or_colons (fun p hp => (hs p hp).2) h
    · have hout := hbefore.noName x (by simp)
      rw [hx] at hout
      cases hout
    · exact absurd ⟨b, by simp⟩ hbefore.noColons

theorem ne_anchored (hs : IsPath s) (hbefore : Opens before) :
    s.toList ≠ before ++ ':' :: ':' :: 'T' :: after := by
  intro h
  have hne : ∀ p ∈ (namePieces s.toList).tail, p ≠ [] := fun p hp => (hs p (List.mem_of_mem_tail hp)).1
  obtain ⟨-, hempty⟩ | ⟨b, x, rfl, hx⟩ := inName_of_colons (fun p hp => (hs p hp).2) hne h
  · exact (hs [] (List.mem_of_mem_head? hempty)).1 rfl
  · have hout := hbefore.noName x (by simp)
    rw [hx] at hout
    cases hout

end IsPath

/-- The characters of a text without the `::` in front. -/
def unanchored : List Char → List Char
  | ':' :: ':' :: cs => cs
  | cs => cs

theorem unanchored_of_ne {xs : List Char} (h : ∀ cs, xs ≠ ':' :: ':' :: cs) : unanchored xs = xs := by
  unfold unanchored
  split
  · next cs => exact absurd rfl (h cs)
  · rfl

theorem toList_without_colons (s : String) : (without s "::").toList = unanchored s.toList := by
  have hcolons : "::".toList = [':', ':'] := rfl
  rw [without, startsWith, hcolons]
  split
  · next hprefix =>
    obtain ⟨cs, hcs⟩ := List.isPrefixOf_iff_prefix.mp hprefix
    rw [← hcs, String.toList_ofList]
    rfl
  · next hprefix =>
    refine (unanchored_of_ne fun cs hcs => hprefix ?_).symm
    rw [hcs, List.isPrefixOf_iff_prefix]
    exact ⟨cs, rfl⟩

theorem Opens.of_suffix {xs ys : List Char} (h : Opens ys) (hsuffix : xs <:+ ys) : Opens xs := by
  refine ⟨fun c hc => h.noName c ?_, fun hcolons => h.noColons (hcolons.trans hsuffix)⟩
  obtain ⟨zs, rfl⟩ := hsuffix
  rw [List.getLast?_append, Option.mem_def.mp hc, Option.some_or]
  rfl

namespace Anchors

variable {xs ys : List Char}

theorem unanchored_eq_iff (h : Anchors xs ys) {path : String} (hpath : IsPath path) :
    unanchored xs = path.toList ↔ unanchored ys = path.toList := by
  obtain @⟨before, after, hbefore, hafter⟩ := h
  have hplain (before' : List Char) (hsuffix : before' <:+ before) (hne : before' ≠ []) :
      before' ++ 'T' :: after ≠ path.toList := by
    intro heq
    exact hne (hpath.eq_nil_of_opens (hbefore.of_suffix hsuffix) heq.symm)
  have hanchored (before' : List Char) (hsuffix : before' <:+ before) :
      before' ++ ':' :: ':' :: 'T' :: after ≠ path.toList := by
    intro heq
    exact hpath.ne_anchored (hbefore.of_suffix hsuffix) heq.symm
  rcases before with _ | ⟨a, _ | ⟨b, before⟩⟩
  · exact Iff.rfl
  · by_cases ha : a = ':'
    · subst ha
      exact Iff.rfl
    · refine iff_of_false ?_ ?_
      · rw [unanchored_of_ne (by simp [ha])]
        exact hplain [a] List.suffix_rfl (by simp)
      · rw [unanchored_of_ne (by simp [ha])]
        exact hanchored [a] List.suffix_rfl
  · by_cases hab : a = ':' ∧ b = ':'
    · obtain ⟨rfl, rfl⟩ := hab
      have hsuffix : before <:+ ':' :: ':' :: before := List.suffix_append [':', ':'] before
      refine iff_of_false (hplain before hsuffix ?_) (hanchored before hsuffix)
      rintro rfl
      exact hbefore.noColons List.suffix_rfl
    · refine iff_of_false ?_ ?_
      · rw [unanchored_of_ne (by simpa using hab)]
        exact hplain _ List.suffix_rfl (by simp)
      · rw [unanchored_of_ne (by simpa using hab)]
        exact hanchored _ List.suffix_rfl

theorem mem (h : Anchors xs ys) : 'T' ∈ xs := by
  obtain ⟨hbefore, hafter⟩ := h
  simp

theorem filter_ne_colon (h : Anchors xs ys) : xs.filter (· != ':') = ys.filter (· != ':') := by
  obtain ⟨hbefore, hafter⟩ := h
  simp

theorem dropWhile (h : Anchors xs ys) {p : Char → Bool} (hp : p 'T' = false) :
    Relation.ReflTransGen Anchors (xs.dropWhile p) (ys.dropWhile p) := by
  obtain @⟨before, after, hbefore, hafter⟩ := h
  rw [List.dropWhile_append, List.dropWhile_append]
  by_cases hall : (before.dropWhile p).isEmpty
  · rw [if_pos hall, if_pos hall]
    have hstart : ('T' :: after).dropWhile p = 'T' :: after := by simp [hp]
    rw [hstart]
    by_cases hcolon : p ':'
    · simp [hcolon, hp, Relation.ReflTransGen.refl]
    · rw [List.dropWhile_cons_of_neg hcolon]
      exact .single (.mk (by decide : Opens []) hafter)
  · rw [if_neg hall, if_neg hall]
    exact .single (.mk (hbefore.of_suffix (List.dropWhile_suffix p)) hafter)

theorem rdropWhile (h : Anchors xs ys) {p : Char → Bool} (hp : p 'T' = false) :
    Anchors (xs.rdropWhile p) (ys.rdropWhile p) := by
  obtain @⟨before, after, hbefore, hafter⟩ := h
  have hkeep (cs : List Char) : (cs ++ 'T' :: after).rdropWhile p = cs ++ 'T' :: after.rdropWhile p := by
    have hreverse : (cs ++ 'T' :: after).reverse = after.reverse ++ 'T' :: cs.reverse := by simp
    rw [List.rdropWhile, List.rdropWhile, hreverse, List.dropWhile_append]
    cases hdrop : after.reverse.dropWhile p with
    | nil => simp [hp]
    | cons d ds => simp
  have hkept := hkeep (before ++ [':', ':'])
  simp only [List.append_assoc, List.cons_append, List.nil_append] at hkept
  rw [hkeep, hkept]
  refine .mk hbefore fun c hc => hafter c ?_
  obtain ⟨dropped, hdropped⟩ := List.rdropWhile_prefix p (l := after)
  rw [← hdropped, List.head?_append, Option.mem_def.mp hc, Option.some_or]
  rfl

end Anchors

namespace Anchored

variable {s t : String}

theorem refl (s : String) : Anchored s s := Relation.ReflTransGen.refl

theorem of_append (before after : String) (hbefore : Opens before.toList)
    (hafter : (after.toList.head?.all fun c => !inName c) = true) :
    Anchored (before ++ "T" ++ after) (before ++ "::T" ++ after) := by
  simp only [Option.all_eq_true, Bool.not_eq_true'] at hafter
  rw [Anchored]
  simp only [String.toList_append, List.append_assoc]
  exact .single (.mk hbefore hafter)

theorem lone : Anchored "T" "::T" := of_append "" "" (by decide) (by decide)

theorem filter_ne_colon (h : Anchored s t) : s.toList.filter (· != ':') = t.toList.filter (· != ':') := by
  rw [Anchored] at h
  generalize t.toList = ys at h ⊢
  induction h with
  | refl => rfl
  | tail _ hstep ih => rw [ih, hstep.filter_ne_colon]

theorem countP_ne_colon (h : Anchored s t) : s.toList.countP (· != ':') = t.toList.countP (· != ':') := by
  rw [List.countP_eq_length_filter, List.countP_eq_length_filter, h.filter_ne_colon]

theorem eq_or_mem (h : Anchored s t) : s = t ∨ 'T' ∈ s.toList ∧ 'T' ∈ t.toList := by
  have hmem (u : String) : 'T' ∈ u.toList ↔ 'T' ∈ u.toList.filter (· != ':') := by simp
  obtain heq | ⟨zs, hstep, hsteps⟩ := h.cases_head
  · exact .inl (String.toList_inj.mp heq)
  · have hs : 'T' ∈ s.toList := hstep.mem
    refine .inr ⟨hs, ?_⟩
    rw [hmem, ← h.filter_ne_colon, ← hmem]
    exact hs

theorem eq_iff (h : Anchored s t) {w : String} (hw : 'T' ∉ w.toList) : s = w ↔ t = w := by
  obtain rfl | ⟨hs, ht⟩ := h.eq_or_mem
  · rfl
  · refine iff_of_false ?_ ?_
    · rintro rfl
      exact hw hs
    · rintro rfl
      exact hw ht

theorem without_eq_iff (h : Anchored s t) {path : String} (hpath : IsPath path) :
    without s "::" = path ↔ without t "::" = path := by
  rw [← String.toList_inj, toList_without_colons, ← String.toList_inj, toList_without_colons]
  rw [Anchored] at h
  generalize t.toList = ys at h ⊢
  induction h with
  | refl => rfl
  | tail _ hstep ih => exact ih.trans (hstep.unanchored_eq_iff hpath)

theorem without_beq (h : Anchored s t) {path : String} (hpath : IsPath path) :
    (without s "::" == path) = (without t "::" == path) := by
  rw [Bool.eq_iff_iff, beq_iff_eq, beq_iff_eq]
  exact h.without_eq_iff hpath

theorem dropStart (h : Anchored s t) {p : Char → Bool} (hp : p 'T' = false) :
    Anchored (Text.dropStart p s) (Text.dropStart p t) := by
  rw [Anchored, Text.dropStart, Text.dropStart, String.toList_ofList, String.toList_ofList]
  exact h.lift' _ fun _ _ hstep => hstep.dropWhile hp

theorem dropEnd (h : Anchored s t) {p : Char → Bool} (hp : p 'T' = false) :
    Anchored (Text.dropEnd p s) (Text.dropEnd p t) := by
  rw [Anchored, Text.dropEnd, Text.dropEnd, String.toList_ofList, String.toList_ofList]
  exact h.lift (List.rdropWhile p) fun _ _ hstep => hstep.rdropWhile hp

theorem trim (h : Anchored s t) : Anchored (Text.trim s) (Text.trim t) :=
  (h.dropStart (by decide)).dropEnd (by decide)

theorem isEmpty_eq (h : Anchored s t) : s.isEmpty = t.isEmpty := by
  rw [Bool.eq_iff_iff, String.isEmpty_iff, String.isEmpty_iff]
  exact h.eq_iff (by simp)

theorem eq_or_eq_of_lone (h : Anchored "T" t) : t = "T" ∨ t = "::T" := by
  rw [← String.toList_inj, ← String.toList_inj]
  rw [Anchored] at h
  generalize t.toList = ys at h ⊢
  induction h with
  | refl => exact .inl rfl
  | tail _ hstep ih =>
    obtain @⟨before, after, hbefore, hafter⟩ := hstep
    obtain heq | heq := ih
    · rcases before with _ | ⟨a, before⟩
      · cases heq
        exact .inr rfl
      · simp at heq
    · rcases before with _ | ⟨a, _ | ⟨b, _ | ⟨c, before⟩⟩⟩
      · cases heq
      · cases heq
      · cases heq
        exact absurd List.suffix_rfl hbefore.noColons
      · simp at heq

theorem eq_of_eq_lone (h : Anchored s "T") : s = "T" := by
  obtain heq | ⟨ys, -, hstep⟩ := h.cases_tail
  · exact String.toList_inj.mp heq.symm
  · generalize hlone : "T".toList = zs at hstep
    obtain ⟨hbefore, hafter⟩ := hstep
    have hlength := congrArg List.length hlone
    simp at hlength
    omega

end Anchored

end RubyStubs.Text
