import Mathlib.Data.List.Sort
import Mathlib.Data.String.Basic
import RubyStubs.Files.Scan

namespace RubyStubs

namespace PathName

inductive Spells : List Char → List String → Prop
  | empty : Spells [] []
  | point : Spells ['.'] []
  | name {cs : List Char} (hne : cs ≠ []) (hpoint : cs ≠ ['.']) (hslash : '/' ∉ cs) :
      Spells cs [String.ofList cs]
  | slash {as bs : List Char} {ps qs : List String} (ha : Spells as ps) (hb : Spells bs qs) :
      Spells (as ++ '/' :: bs) (ps ++ qs)

def components (cs : List Char) : List String :=
  ((Text.split '/' cs).map String.ofList).filter fun p => p != "" && p != "."

theorem components_append (as bs : List Char) :
    components (as ++ '/' :: bs) = components as ++ components bs := by
  rw [components, Text.split_append_sep, List.map_append, List.filter_append, components, components]

theorem components_of_not_mem {cs : List Char} (h : '/' ∉ cs) (hne : cs ≠ []) (hpoint : cs ≠ ['.']) :
    components cs = [String.ofList cs] := by
  have hempty : String.ofList cs ≠ "" := fun he => hne (String.ofList_injective he)
  have hdot : String.ofList cs ≠ "." := fun he => hpoint (String.ofList_injective he)
  simp [components, Text.split_of_not_mem h, hempty, hdot]

theorem spells_components (cs : List Char) : Spells cs (components cs) := by
  by_cases h : '/' ∈ cs
  · obtain ⟨as, bs, rfl⟩ := List.append_of_mem h
    rw [components_append]
    exact .slash (spells_components as) (spells_components bs)
  · by_cases hne : cs = []
    · subst hne
      exact .empty
    · by_cases hpoint : cs = ['.']
      · subst hpoint
        exact .point
      · rw [components_of_not_mem h hne hpoint]
        exact .name hne hpoint h
termination_by cs.length
decreasing_by
  all_goals
    subst_vars
    rw [List.length_append, List.length_cons]
    omega

theorem spells_iff {cs : List Char} {ps : List String} : Spells cs ps ↔ components cs = ps := by
  constructor
  · intro h
    induction h with
    | empty => rfl
    | point => rfl
    | name hne hpoint hslash => exact components_of_not_mem hslash hne hpoint
    | slash _ _ iha ihb => rw [components_append, iha, ihb]
  · rintro rfl
    exact spells_components cs

def IsRelative (s : String) : Prop := s.toList.head? ≠ some '/'

theorem IsRelative.rooted_ofText {s : String} (h : IsRelative s) : (ofText s).rooted = false := by
  rw [IsRelative] at h
  simp only [rooted, ofText]
  cases hs : s.toList with
  | nil => rfl
  | cons c cs =>
    have hc : c ≠ '/' := by
      rintro rfl
      simp [hs] at h
    unfold rootOf
    split <;> simp_all

end PathName

namespace FileTree

open PathName

def Leads (texts : List String) (file : List String) : Prop :=
  ∃ s ∈ texts, ∃ ps, Spells s.toList ps ∧ ps <+: file

/-- A Ruby file, given by its components, in no directory that is skipped. Where there are
inclusions, one of them leads to it; no exclusion does. -/
structure Wanted (inclusions exclusions : List String) (file : List String) : Prop where
  suffix : ∃ dirs stem, stem ≠ "" ∧ file = dirs ++ [stem ++ ".rb"]
  skipped : ∀ d ∈ file.dropLast, d ∉ skippedDirectories
  included : inclusions ≠ [] → Leads inclusions file
  excluded : ¬ Leads exclusions file

theorem isRubyName_iff {name : String} : isRubyName name = true ↔ ∃ stem, stem ≠ "" ∧ name = stem ++ ".rb" := by
  have hsuffix : ".rb".toList = ['.', 'r', 'b'] := rfl
  constructor
  · intro h
    unfold isRubyName at h
    split at h
    · next c cs hrev =>
      refine ⟨String.ofList (c :: cs).reverse, fun he => ?_, ?_⟩
      · have hnil : (c :: cs).reverse = [] := String.ofList_injective he
        simp at hnil
      · rw [← String.toList_inj, String.toList_append, String.toList_ofList, hsuffix,
          ← List.reverse_inj, hrev]
        simp
    · cases h
  · rintro ⟨stem, hne, rfl⟩
    have hlist : stem.toList.reverse ≠ [] := by simpa using hne
    obtain ⟨c, cs, hcs⟩ := List.exists_cons_of_ne_nil hlist
    simp [isRubyName, hsuffix, hcs]

theorem any_isUnder_iff {texts : List String} (h : ∀ s ∈ texts, IsRelative s) (file : List String) :
    (texts.map PathName.ofText).any (isUnder file) = true ↔ Leads texts file := by
  rw [List.any_map, List.any_eq_true]
  apply exists_congr
  intro s
  apply and_congr_right
  intro hs
  rw [Function.comp_apply, isUnder, (h s hs).rooted_ofText, Bool.not_false, Bool.true_and,
    List.isPrefixOf_iff_prefix]
  simp only [spells_iff, exists_eq_left']
  exact Iff.rfl

theorem isWanted_iff {inclusions exclusions : List String} (hin : ∀ s ∈ inclusions, IsRelative s)
    (hex : ∀ s ∈ exclusions, IsRelative s) (file : List String) :
    isWanted (inclusions.map .ofText) (exclusions.map .ofText) file = true ↔
      Wanted inclusions exclusions file := by
  have hsuffix : file.getLast?.any isRubyName = true ↔ ∃ dirs stem, stem ≠ "" ∧ file = dirs ++ [stem ++ ".rb"] := by
    rw [Option.any_eq_true]
    simp only [List.getLast?_eq_some_iff, isRubyName_iff]
    constructor
    · rintro ⟨name, ⟨dirs, rfl⟩, stem, hstem, rfl⟩
      exact ⟨dirs, stem, hstem, rfl⟩
    · rintro ⟨dirs, stem, hstem, rfl⟩
      exact ⟨_, ⟨dirs, rfl⟩, stem, hstem, rfl⟩
  have hskipped : (file.dropLast.all (!skippedDirectories.contains ·)) = true ↔
      ∀ d ∈ file.dropLast, d ∉ skippedDirectories := by
    simp
  simp only [isWanted, Bool.and_eq_true, Bool.or_eq_true, Bool.not_eq_true', ← Bool.not_eq_true,
    hsuffix, hskipped, any_isUnder_iff hin, any_isUnder_iff hex, List.isEmpty_iff, List.map_eq_nil_iff,
    or_iff_not_imp_left]
  constructor
  · rintro ⟨⟨⟨hs, hn⟩, hi⟩, he⟩
    exact ⟨hn, hs, hi, he⟩
  · rintro ⟨hn, hs, hi, he⟩
    exact ⟨⟨⟨hs, hn⟩, hi⟩, he⟩

def HasFile (t : FileTree) (root : PathName) (file : List String) : Prop :=
  t.get? root = some .directory ∧ file ≠ [] ∧ ∃ bytes, (t.resolve root ++ file, .file bytes) ∈ t.entries

def fileBelow? (top : List String) : List String × FileEntry → Option (List String)
  | (_, .directory) => none
  | (parts, .file _) =>
    if top.isPrefixOf parts && top.length < parts.length then some (parts.drop top.length) else none

theorem fileBelow?_eq_some_iff {top file : List String} {entry : List String × FileEntry} :
    fileBelow? top entry = some file ↔ file ≠ [] ∧ ∃ bytes, entry = (top ++ file, .file bytes) := by
  obtain ⟨parts, e⟩ := entry
  cases e with
  | directory => simp [fileBelow?]
  | file bytes =>
    simp only [fileBelow?, Option.ite_none_right_eq_some, Bool.and_eq_true, List.isPrefixOf_iff_prefix,
      decide_eq_true_eq, Option.some.injEq, Prod.mk.injEq, FileEntry.file.injEq]
    constructor
    · rintro ⟨⟨⟨rest, rfl⟩, hlt⟩, rfl⟩
      rw [List.drop_left]
      refine ⟨fun he => ?_, bytes, rfl, rfl⟩
      simp [he] at hlt
    · rintro ⟨hne, _, rfl, -⟩
      have := List.length_pos_iff.mpr hne
      exact ⟨⟨⟨file, rfl⟩, by simpa using this⟩, List.drop_left⟩

theorem filesBelow_of_directory {t : FileTree} {root : PathName} (hroot : t.get? root = some .directory) :
    t.filesBelow root = t.entries.filterMap (fileBelow? (t.resolve root)) := by
  simp only [filesBelow, hroot]
  refine List.filterMap_congr fun x _ => ?_
  obtain ⟨parts, _ | bytes⟩ := x <;> rfl

theorem filesBelow_cases (t : FileTree) (root : PathName) :
    t.get? root = some .directory ∨ t.filesBelow root = [] := by
  unfold filesBelow
  split
  · next hroot => exact .inl hroot
  · exact .inr rfl

theorem mem_filesBelow {t : FileTree} {root : PathName} {file : List String} :
    file ∈ t.filesBelow root ↔ t.HasFile root file := by
  constructor
  · intro h
    obtain hroot | hnil := t.filesBelow_cases root
    · rw [filesBelow_of_directory hroot, List.mem_filterMap] at h
      obtain ⟨entry, hmem, hentry⟩ := h
      obtain ⟨hne, bytes, rfl⟩ := fileBelow?_eq_some_iff.mp hentry
      exact ⟨hroot, hne, bytes, hmem⟩
    · rw [hnil] at h
      cases h
  · rintro ⟨hroot, hne, bytes, hmem⟩
    rw [filesBelow_of_directory hroot, List.mem_filterMap]
    exact ⟨_, hmem, fileBelow?_eq_some_iff.mpr ⟨hne, bytes, rfl⟩⟩

theorem nodup_filesBelow (t : FileTree) (root : PathName) : (t.filesBelow root).Nodup := by
  obtain hroot | hnil := t.filesBelow_cases root
  · have hkeys : t.entries.Pairwise (·.1 ≠ ·.1) := List.pairwise_map.mp t.nodup
    rw [filesBelow_of_directory hroot]
    refine hkeys.filterMap _ ?_
    rintro x y hne file hx _ hy rfl
    obtain ⟨-, _, rfl⟩ := fileBelow?_eq_some_iff.mp hx
    obtain ⟨-, _, rfl⟩ := fileBelow?_eq_some_iff.mp hy
    exact hne rfl
  · rw [hnil]
    exact List.nodup_nil

theorem nameLt_eq_decide (a b : String) : nameLt a b = decide (a < b) := by
  have hchar : (fun c d : Char => Nat.blt c.toNat d.toNat) = fun c d => decide (c < d) := by
    funext c d
    rw [Bool.eq_iff_iff, Nat.blt_eq, decide_eq_true_iff, Char.lt_def, UInt32.lt_iff_toNat_lt]
    rfl
  rw [nameLt, hchar, Bool.eq_iff_iff, List.lex_eq_true_iff_lt, decide_eq_true_iff, String.lt_iff]

theorem pathLe_iff {a b : List String} : pathLe a b = true ↔ a ≤ b := by
  have hname : nameLt = fun a b => decide (a < b) := funext fun a => funext fun b => nameLt_eq_decide a b
  rw [pathLe, hname, Bool.not_eq_true', ← Bool.not_eq_true, List.lex_eq_true_iff_lt, not_lt]

theorem scan_pairwise_lt (t : FileTree) (root : PathName) (inclusions exclusions : List PathName) :
    (t.scan root inclusions exclusions).Pairwise (· < ·) := by
  have hsorted : (t.scan root inclusions exclusions).Pairwise fun a b => pathLe a b = true := by
    apply List.pairwise_mergeSort
    · intro a b c hab hbc
      exact pathLe_iff.mpr (le_trans (pathLe_iff.mp hab) (pathLe_iff.mp hbc))
    · intro a b
      rw [Bool.or_eq_true, pathLe_iff, pathLe_iff]
      exact le_total a b
  have hnodup : (t.scan root inclusions exclusions).Nodup :=
    (List.mergeSort_perm _ _).nodup_iff.mpr ((t.nodup_filesBelow root).filter _)
  exact hsorted.imp₂ (fun a b hle hne => lt_of_le_of_ne (pathLe_iff.mp hle) hne) hnodup

section Reordered

variable {t t' : FileTree} (h : t.entries.Perm t'.entries)

include h

theorem find?_of_perm (parts : List String) :
    t.entries.find? (·.1 == parts) = t'.entries.find? (·.1 == parts) := by
  cases hf : t.entries.find? (·.1 == parts) with
  | none =>
    rw [eq_comm, List.find?_eq_none]
    intro x hx
    exact List.find?_eq_none.mp hf x (h.mem_iff.mpr hx)
  | some x =>
    have hx := List.mem_of_find?_eq_some hf
    have hpx : (x.1 == parts) = true := List.find?_some (p := fun x : List String × FileEntry => x.1 == parts) hf
    cases hf' : t'.entries.find? (·.1 == parts) with
    | none => exact absurd hpx (List.find?_eq_none.mp hf' x (h.mem_iff.mp hx))
    | some y =>
      have hy := h.mem_iff.mpr (List.mem_of_find?_eq_some hf')
      have hpy : (y.1 == parts) = true := List.find?_some (p := fun x : List String × FileEntry => x.1 == parts) hf'
      exact congrArg some (List.inj_on_of_nodup_map t.nodup hx hy ((eq_of_beq hpx).trans (eq_of_beq hpy).symm))

variable (hhere : t.here = t'.here)

include hhere

theorem entry?_of_perm (parts : List String) : t.entry? parts = t'.entry? parts := by
  rw [ entry?, entry?, find?_of_perm h, h.any_eq, hhere]

theorem follow_of_perm (place parts : List String) : t.follow place parts = t'.follow place parts := by
  induction parts generalizing place with
  | nil => rw [follow, follow, entry?_of_perm h hhere]
  | cons c cs ih =>
    unfold follow
    rw [entry?_of_perm h hhere]
    simp only [ih]

theorem hasFile_of_perm (root : PathName) (file : List String) : t.HasFile root file ↔ t'.HasFile root file := by
  simp only [HasFile, get?, find, resolve, start, hhere, follow_of_perm h hhere, h.mem_iff]

end Reordered

def SamePaths (texts texts' : List String) : Prop :=
  ∀ ps, (∃ s ∈ texts, Spells s.toList ps) ↔ ∃ s ∈ texts', Spells s.toList ps

theorem SamePaths.leads_iff {texts texts' : List String} (h : SamePaths texts texts') (file : List String) :
    Leads texts file ↔ Leads texts' file := by
  have hpaths (l : List String) :
      Leads l file ↔ ∃ ps, (∃ s ∈ l, Spells s.toList ps) ∧ ps <+: file := by
    constructor
    · rintro ⟨s, hs, ps, hps, hle⟩
      exact ⟨ps, ⟨s, hs, hps⟩, hle⟩
    · rintro ⟨ps, ⟨s, hs, hps⟩, hle⟩
      exact ⟨s, hs, ps, hps, hle⟩
  rw [hpaths, hpaths]
  exact exists_congr fun ps => and_congr_left' (h ps)

theorem SamePaths.eq_nil_iff {texts texts' : List String} (h : SamePaths texts texts') :
    texts = [] ↔ texts' = [] := by
  have hsome (l l' : List String) (hl : ∀ ps, (∃ s ∈ l, Spells s.toList ps) → ∃ s ∈ l', Spells s.toList ps)
      (hl' : l' = []) : l = [] := by
    rw [List.eq_nil_iff_forall_not_mem]
    intro s hs
    obtain ⟨s', hs', -⟩ := hl _ ⟨s, hs, spells_components s.toList⟩
    rw [hl'] at hs'
    cases hs'
  exact ⟨hsome _ _ fun ps => (h ps).mpr, hsome _ _ fun ps => (h ps).mp⟩

theorem SamePaths.wanted_iff {inclusions inclusions' exclusions exclusions' : List String}
    (hin : SamePaths inclusions inclusions') (hex : SamePaths exclusions exclusions') (file : List String) :
    Wanted inclusions exclusions file ↔ Wanted inclusions' exclusions' file := by
  have hcongr : (inclusions ≠ [] → Leads inclusions file) ↔ (inclusions' ≠ [] → Leads inclusions' file) := by
    rw [ne_eq, ne_eq, hin.eq_nil_iff, hin.leads_iff]
  constructor
  · rintro ⟨hn, hs, hi, he⟩
    exact ⟨hn, hs, hcongr.mp hi, fun hl => he ((hex.leads_iff file).mpr hl)⟩
  · rintro ⟨hn, hs, hi, he⟩
    exact ⟨hn, hs, hcongr.mpr hi, fun hl => he ((hex.leads_iff file).mp hl)⟩

/-- A scan finds the wanted files that are there, in strictly increasing order of their components.
It finds the same files in a tree whose entries are listed in another order, and for inclusions and
exclusions that are the same paths in another order or spelling. -/
theorem scan_finds_wanted (t : FileTree) (root : PathName) (inclusions exclusions : List String)
    (hin : ∀ s ∈ inclusions, IsRelative s) (hex : ∀ s ∈ exclusions, IsRelative s) :
    (t.scan root (inclusions.map .ofText) (exclusions.map .ofText)).Pairwise (· < ·) ∧
      (∀ file, file ∈ t.scan root (inclusions.map .ofText) (exclusions.map .ofText) ↔
        t.HasFile root file ∧ Wanted inclusions exclusions file) ∧
      ∀ (t' : FileTree) (inclusions' exclusions' : List String), t.entries.Perm t'.entries → t.here = t'.here →
        (∀ s ∈ inclusions', IsRelative s) → (∀ s ∈ exclusions', IsRelative s) →
        SamePaths inclusions inclusions' → SamePaths exclusions exclusions' →
        t'.scan root (inclusions'.map .ofText) (exclusions'.map .ofText) =
          t.scan root (inclusions.map .ofText) (exclusions.map .ofText) := by
  have hmem (t : FileTree) {ins exs : List String} (hin : ∀ s ∈ ins, IsRelative s)
      (hex : ∀ s ∈ exs, IsRelative s) (file : List String) :
      file ∈ t.scan root (ins.map .ofText) (exs.map .ofText) ↔ t.HasFile root file ∧ Wanted ins exs file := by
    rw [mem_scan, mem_filesBelow, isWanted_iff hin hex]
  refine ⟨t.scan_pairwise_lt _ _ _, hmem t hin hex, ?_⟩
  intro t' inclusions' exclusions' hperm hhere hin' hex' hins hexs
  apply List.Pairwise.eq_of_mem_iff (t'.scan_pairwise_lt _ _ _) (t.scan_pairwise_lt _ _ _)
  intro file
  rw [hmem t' hin' hex', hmem t hin hex, hasFile_of_perm hperm hhere, hins.wanted_iff hexs]

theorem scan_finds_wanted_respelled :
    let place (file : List String) : List String × FileEntry := (["work", "app"] ++ file, .file [])
    let entries : List (List String × FileEntry) :=
      [place ["lib", "legacy", "old.rb"], place ["library", "core.rb"], place ["lib", "vendor", "gem.rb"],
        place ["lib", ".rb"], place ["lib", "core.rb"]]
    let t : FileTree := { entries, nodup := by decide, here := ["work"] }
    let t' : FileTree := { entries := entries.reverse, nodup := by decide, here := ["work"] }
    let root : PathName := .ofText "/work/app"
    (∀ s ∈ ["lib"], IsRelative s) ∧ (∀ s ∈ ["lib/legacy"], IsRelative s) ∧ t.entries.Perm t'.entries ∧
      SamePaths ["lib"] [".//lib/", "lib"] ∧ SamePaths ["lib/legacy"] ["lib/.//legacy"] ∧
      t'.scan root ([".//lib/", "lib"].map .ofText) (["lib/.//legacy"].map .ofText) = [["lib", "core.rb"]] := by
  intro place entries t t' root
  have hin : ∀ s ∈ ["lib"], IsRelative s := by simp [IsRelative]
  have hex : ∀ s ∈ ["lib/legacy"], IsRelative s := by simp [IsRelative]
  have hin' : ∀ s ∈ [".//lib/", "lib"], IsRelative s := by simp [IsRelative]
  have hex' : ∀ s ∈ ["lib/.//legacy"], IsRelative s := by simp [IsRelative]
  have hperm : t.entries.Perm t'.entries := (List.reverse_perm entries).symm
  have hins : SamePaths ["lib"] [".//lib/", "lib"] := by
    have hsame : components "lib".toList = components ".//lib/".toList := by decide
    simpa [SamePaths, spells_iff] using hsame
  have hexs : SamePaths ["lib/legacy"] ["lib/.//legacy"] := by
    have hsame : components "lib/legacy".toList = components "lib/.//legacy".toList := by decide
    simpa [SamePaths, spells_iff] using hsame
  have hscan : t.scan root (["lib"].map .ofText) (["lib/legacy"].map .ofText) = [["lib", "core.rb"]] := by
    decide +kernel
  refine ⟨hin, hex, hperm, hins, hexs, ?_⟩
  obtain ⟨-, -, hsame⟩ := scan_finds_wanted t root ["lib"] ["lib/legacy"] hin hex
  rw [hsame t' [".//lib/", "lib"] ["lib/.//legacy"] hperm rfl hin' hex' hins hexs, hscan]

end FileTree

end RubyStubs
