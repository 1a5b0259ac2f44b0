import RubyStubs.Proofs.Outcome
import RubyStubs.Settings.Config

namespace RubyStubs

namespace Data

theorem sameKey_text_iff (d : Data) (s : String) : d.sameKey (.text s) = true ↔ d = .text s := by
  cases d <;> simp [sameKey, number?]

theorem lookup?_put (entries : List (Data × Data)) (key key' : String) (value : Data) :
    lookup? (put entries (.text key) value) key' = if key = key' then some value else lookup? entries key' := by
  induction entries with
  | nil => by_cases h : key = key' <;> simp [put, lookup?, sameKey, h]
  | cons e entries ih =>
    rw [lookup?] at ih ⊢
    by_cases hk : e.1.sameKey (.text key)
    · have he : e.1 = .text key := (sameKey_text_iff _ _).mp hk
      by_cases h : key = key' <;> simp [put, lookup?, he, sameKey, h]
    · by_cases hk' : e.1.sameKey (.text key')
      · have hne : key ≠ key' := by
          rintro rfl
          exact hk hk'
        simp [put, lookup?, hk, hk', hne]
      · simpa [put, lookup?, hk, hk'] using ih

end Data

namespace Config

open Data

inductive Setting where
  | output | rbi | rbs | requires | plugins | source | root | included | excluded | strict | style
  | breakParams | tabSize | sorted
  deriving DecidableEq, Repr

namespace Setting

def place : Setting → Option String × String
  | .output => (none, "output_file")
  | .rbi => (some "output_file", "rbi")
  | .rbs => (some "output_file", "rbs")
  | .requires => (none, "relative_requires")
  | .plugins => (none, "plugins")
  | .source => (none, "parser")
  | .root => (some "parser", "root")
  | .included => (some "parser", "included_paths")
  | .excluded => (some "parser", "excluded_paths")
  | .strict => (some "parser", "unknown_node_errors")
  | .style => (none, "style")
  | .breakParams => (some "style", "break_params")
  | .tabSize => (some "style", "tab_size")
  | .sorted => (some "style", "sort_namespaces")

end Setting

def sectionOf (entries : List (Data × Data)) (name : String) : List (Data × Data) :=
  match lookup? entries name with
  | some (.map m) => m
  | _ => []

def HasSection (entries : List (Data × Data)) (name : String) : Prop :=
  lookup? entries name = none ∨ lookup? entries name = some .null ∨ ∃ m, lookup? entries name = some (.map m)

namespace Setting

def IsAbsent (s : Setting) (entries : List (Data × Data)) : Prop :=
  match s.place with
  | (none, key) => lookup? entries key = none
  | (some name, key) => HasSection entries name ∧ lookup? (sectionOf entries name) key = none

def blanked (s : Setting) (entries : List (Data × Data)) : List (Data × Data) :=
  match s.place with
  | (none, key) => put entries (.text key) .null
  | (some name, key) => put entries (.text name) (.map (put (sectionOf entries name) (.text key) .null))

end Setting

section Sections

variable {entries : List (Data × Data)} {name : String}

theorem sectionOf_of_none (h : lookup? entries name = none) : sectionOf entries name = [] := by
  simp [sectionOf, h]

theorem sectionOf_of_null (h : lookup? entries name = some .null) : sectionOf entries name = [] := by
  simp [sectionOf, h]

theorem sectionOf_of_map {m : List (Data × Data)} (h : lookup? entries name = some (.map m)) :
    sectionOf entries name = m := by
  simp [sectionOf, h]

theorem lookup?_put_self (value : Data) : lookup? (put entries (.text name) value) name = some value := by
  simp [lookup?_put]

theorem hasSection_put (m : List (Data × Data)) : HasSection (put entries (.text name) (.map m)) name :=
  .inr (.inr ⟨m, lookup?_put_self _⟩)

theorem sectionOf_put (m : List (Data × Data)) : sectionOf (put entries (.text name) (.map m)) name = m :=
  sectionOf_of_map (lookup?_put_self _)

theorem section?_of_hasSection (h : HasSection entries name) : section? entries name =
    some (sectionOf entries name) := by
  rcases h with h | h | ⟨m, h⟩
  · simp [section?, h, sectionOf_of_none h]
  · simp [section?, h, sectionOf_of_null h, isBlank]
  · cases m <;> simp [section?, h, sectionOf_of_map h, isBlank]

def outputsIn (m : List (Data × Data)) : Except SettingsError (Option String × Option String) := do
  let rbi ← text? m "rbi"
  let rbs ← text? m "rbs"
  return (rbi, rbs)

theorem outputs_of_hasSection (h : HasSection entries "output_file") :
    outputs entries = outputsIn (sectionOf entries "output_file") := by
  rcases h with h | h | ⟨m, h⟩
  · rw [outputs, h, sectionOf_of_none h]
    rfl
  · rw [outputs, h, sectionOf_of_null h]
    rfl
  · rw [outputs, h, sectionOf_of_map h]
    rfl

def sourceIn (m : List (Data × Data)) : Except SettingsError SourceSettings := do
  let included ← textList m "included_paths"
  let excluded ← textList m "excluded_paths"
  return { root := ((lookup? m "root").map toText).getD ".", included, excluded
           strict := flag m "unknown_node_errors" }

theorem sourceSettings_of_hasSection (h : HasSection entries "parser") :
    sourceSettings entries = some <$> sourceIn (sectionOf entries "parser") := by
  have hmap (m : List (Data × Data)) : some <$> sourceIn m = (do
      let included ← textList m "included_paths"
      let excluded ← textList m "excluded_paths"
      return some { root := ((lookup? m "root").map toText).getD ".", included, excluded
                    strict := flag m "unknown_node_errors" } : Except SettingsError _) := by
    rw [sourceIn]
    cases textList m "included_paths" with
    | error e => rfl
    | ok included => cases textList m "excluded_paths" <;> rfl
  rcases h with h | h | ⟨m, h⟩
  · rw [sourceSettings, h, sectionOf_of_none h, hmap]
  · rw [sourceSettings, h, sectionOf_of_null h, hmap]
  · rw [sourceSettings, h, sectionOf_of_map h, hmap]

end Sections

section Values

variable {entries : List (Data × Data)} {key : String}

theorem text?_put_null (h : lookup? entries key = none) (key' : String) :
    text? (put entries (.text key) .null) key' = text? entries key' := by
  by_cases hk : key = key'
  · subst hk
    simp [text?, lookup?_put, h]
  · simp [text?, lookup?_put, hk]

theorem textList_put_null (h : lookup? entries key = none) (key' : String) :
    textList (put entries (.text key) .null) key' = textList entries key' := by
  by_cases hk : key = key'
  · subst hk
    simp [textList, lookup?_put, h, isBlank]
  · simp [textList, lookup?_put, hk]

theorem flag_put_null (h : lookup? entries key = none) (key' : String) :
    flag (put entries (.text key) .null) key' = flag entries key' := by
  by_cases hk : key = key'
  · subst hk
    simp [flag, lookup?_put, h, isBlank]
  · simp [flag, lookup?_put, hk]

theorem section?_put_null (h : lookup? entries key = none) (key' : String) : section?
      (put entries (.text key) .null) key' = section? entries key' := by
  by_cases hk : key = key'
  · subst hk
    simp [section?, lookup?_put, h, isBlank]
  · simp [section?, lookup?_put, hk]

theorem outputs_put_null (h : lookup? entries key = none) :
    outputs (put entries (.text key) .null) = outputs entries := by
  by_cases hk : key = "output_file"
  · subst hk
    simp [outputs, lookup?_put, h]
  · simp [outputs, lookup?_put, hk]

theorem sourceSettings_put_null (h : lookup? entries key = none) :
    sourceSettings (put entries (.text key) .null) = sourceSettings entries := by
  by_cases hk : key = "parser"
  · subst hk
    simp [sourceSettings, lookup?_put, h]
  · simp [sourceSettings, lookup?_put, hk]

theorem positive_put_of_ne {key' : String} (h : key ≠ key') (value : Data) (default : Int) :
    positive (put entries (.text key) value) key' default = positive entries key' default := by
  simp [positive, lookup?_put, h]

theorem positive_put_null (default : Int) :
    positive (put entries (.text key) .null) key default = .error (.notPositive key) := by
  simp [positive, lookup?_put]

theorem eq_of_positive_error {default : Int} {e : SettingsError} (h : positive entries key default = .error e) :
    e = .notPositive key := by
  unfold positive at h
  split at h
  · cases h
  · split at h
    · exact (Except.error.inj h).symm
    · cases h
  · exact (Except.error.inj h).symm

theorem positive_of_absent (h : lookup? entries key = none) (default : Int) :
    positive entries key default = .ok default := by
  simp [positive, h]

end Values

structure Start where
  outputs : Option String × Option String
  requires : List String
  plugins : List (String × List (Data × Data))
  source : Option SourceSettings
  style : List (Data × Data)

def pluginsIn : Option (List (Data × Data)) → Except SettingsError (List (String × List (Data × Data)))
  | some m => pluginsFrom [] m
  | none => .error .plugins

def start (entries : List (Data × Data)) : Except SettingsError Start := do
  let outputs ← outputs entries
  let requires ← textList entries "relative_requires"
  let plugins ← pluginsIn (section? entries "plugins")
  let source ← sourceSettings entries
  match section? entries "style" with
  | none => .error .style
  | some style => return { outputs, requires, plugins, source, style }

namespace Start

def finish (b : Start) : Except SettingsError Config := do
  let breakParams ← positive b.style "break_params" 4
  let tabSize ← positive b.style "tab_size" 2
  return { rbiOutput := b.outputs.1, rbsOutput := b.outputs.2, requires := b.requires, plugins := b.plugins
           source := b.source
           style := { breakParams, tabSize, sorted := flag b.style "sort_namespaces" } }

end Start

theorem ofData_eq (entries : List (Data × Data)) : ofData (.map entries) = start entries >>= Start.finish := by
  rw [ofData, start, bind_assoc]
  refine bind_congr fun o => ?_
  rw [bind_assoc]
  refine bind_congr fun requires => ?_
  cases section? entries "plugins" with
  | none => rfl
  | some m =>
    rw [bind_assoc]
    refine bind_congr fun plugins => ?_
    rw [bind_assoc]
    refine bind_congr fun source => ?_
    cases section? entries "style" <;> rfl

section Stages

variable {entries entries' : List (Data × Data)} {key : String}

theorem start_map {f : Option SourceSettings → Option SourceSettings} {g : List (Data × Data) → List (Data × Data)}
    (houtputs : outputs entries' = outputs entries)
    (hrequires : textList entries' "relative_requires" = textList entries "relative_requires")
    (hplugins : section? entries' "plugins" = section? entries "plugins")
    (hsource : sourceSettings entries' = f <$> sourceSettings entries)
    (hstyle : section? entries' "style" = (section? entries "style").map g) :
    start entries' = (fun b => { b with source := f b.source, style := g b.style }) <$> start entries := by
  rw [start, start, houtputs, hrequires, hplugins, hsource, hstyle, map_bind]
  refine bind_congr fun o => ?_
  rw [map_bind]
  refine bind_congr fun requires => ?_
  rw [map_bind]
  refine bind_congr fun plugins => ?_
  rw [map_bind, bind_map_left]
  refine bind_congr fun source => ?_
  cases section? entries "style" <;> rfl

theorem start_put_null (h : lookup? entries key = none) : start (put entries (.text key) .null) = start entries := by
  rw [start, start, outputs_put_null h, textList_put_null h, section?_put_null h, section?_put_null h,
    sourceSettings_put_null h]

variable {m : List (Data × Data)}

theorem start_put_outputs (h : HasSection entries "output_file")
    (hm : outputsIn m = outputsIn (sectionOf entries "output_file")) :
    start (put entries (.text "output_file") (.map m)) = start entries := by
  have houtputs : outputs (put entries (.text "output_file") (.map m)) = outputs entries := by
    rw [outputs_of_hasSection (hasSection_put m), sectionOf_put, hm, outputs_of_hasSection h]
  rw [start, start, houtputs]
  simp [textList, section?, sourceSettings, lookup?_put]

theorem start_put_source (h : HasSection entries "parser") {f : SourceSettings → SourceSettings}
    (hm : sourceIn m = f <$> sourceIn (sectionOf entries "parser")) :
    start (put entries (.text "parser") (.map m)) =
      (fun b => { b with source := b.source.map f }) <$> start entries := by
  have hsource : sourceSettings (put entries (.text "parser") (.map m)) = Option.map f <$> sourceSettings entries := by
    rw [sourceSettings_of_hasSection (hasSection_put m), sectionOf_put, hm, sourceSettings_of_hasSection h]
    cases sourceIn (sectionOf entries "parser") <;> rfl
  refine start_map (g := id) ?_ ?_ ?_ hsource ?_ <;> simp [outputs, textList, section?, lookup?_put]

theorem start_put_style (h : HasSection entries "style") :
    start (put entries (.text "style") (.map m)) = (fun b => { b with style := m }) <$> start entries := by
  have hstyle : section? (put entries (.text "style") (.map m)) "style" = (section? entries "style").map fun _ => m := by
    rw [section?_of_hasSection (hasSection_put m), sectionOf_put, section?_of_hasSection h, Option.map_some]
  refine start_map (f := id) ?_ ?_ ?_ ?_ hstyle <;> simp [outputs, textList, section?, sourceSettings, lookup?_put]

end Stages

section Sections

variable {m : List (Data × Data)} {key : String}

theorem outputsIn_put_null (h : lookup? m key = none) : outputsIn (put m (.text key) .null) = outputsIn m := by
  rw [outputsIn, outputsIn, text?_put_null h, text?_put_null h]

theorem sourceIn_put_null (h : lookup? m key = none) (hroot : key ≠ "root") :
    sourceIn (put m (.text key) .null) = sourceIn m := by
  rw [sourceIn, sourceIn, textList_put_null h, textList_put_null h, flag_put_null h, lookup?_put, if_neg hroot]

theorem sourceIn_put_root (h : lookup? m "root" = none) :
    sourceIn (put m (.text "root") .null) = (fun x => { x with root := "None" }) <$> sourceIn m := by
  rw [sourceIn, sourceIn, textList_put_null h, textList_put_null h, flag_put_null h, lookup?_put_self, map_bind]
  refine bind_congr fun included => ?_
  rw [map_bind]
  rfl

theorem root_of_sourceIn {x : SourceSettings} (h : lookup? m "root" = none) (hx : sourceIn m = .ok x) :
    x.root = "." := by
  rw [sourceIn] at hx
  obtain ⟨included, -, hx⟩ := bind_eq_ok_iff.mp hx
  obtain ⟨excluded, -, hx⟩ := bind_eq_ok_iff.mp hx
  cases hx
  simp [h]

theorem finish_put_sorted (b : Start) (h : lookup? b.style "sort_namespaces" = none) :
    Start.finish { b with style := put b.style (.text "sort_namespaces") .null } = b.finish := by
  rw [Start.finish, Start.finish, positive_put_of_ne (by decide), positive_put_of_ne (by decide), flag_put_null h]

end Sections

def Early {α : Type} (x : Except SettingsError α) : Prop := ∀ e, x = .error e → ∀ key, e ≠ .notPositive key

section Early

variable {α β : Type} {entries : List (Data × Data)}

theorem Early.ok (a : α) : Early (.ok a) := nofun

theorem Early.error {e : SettingsError} (h : ∀ key, e ≠ .notPositive key) : Early (.error e : Except _ α) := by
  intro e' he
  cases he
  exact h

theorem Early.bind {x : Except SettingsError α} {f : α → Except SettingsError β} (hx : Early x)
    (hf : ∀ a, Early (f a)) : Early (x >>= f) := by
  cases x with
  | error e => exact .error (hx e rfl)
  | ok a => exact hf a

theorem text?_early (key : String) : Early (text? entries key) := by
  unfold text?
  split
  · exact .ok _
  · exact .ok _
  · exact .ok _
  · exact .error nofun

theorem textList_early (key : String) : Early (textList entries key) := by
  unfold textList
  split
  · exact .ok _
  · split
    · exact .ok _
    · split
      · split
        · exact .ok _
        · exact .error nofun
      · exact .error nofun

theorem outputs_early : Early (outputs entries) := by
  unfold outputs
  split
  · exact .ok _
  · exact .ok _
  · exact .ok _
  · exact (text?_early _).bind fun _ => (text?_early _).bind fun _ => .ok _
  · exact .error nofun

theorem pluginsFrom_early (plugins : List (String × List (Data × Data))) (entries : List (Data × Data)) :
    Early (pluginsFrom plugins entries) := by
  induction entries generalizing plugins with
  | nil => exact .ok _
  | cons e entries ih =>
    unfold pluginsFrom
    split
    · exact ih _
    · exact ih _
    · exact .error nofun

theorem sourceSettings_early : Early (sourceSettings entries) := by
  have hmap (m : List (Data × Data)) : Early (do
      let included ← textList m "included_paths"
      let excluded ← textList m "excluded_paths"
      return some { root := ((lookup? m "root").map toText).getD ".", included, excluded
                    strict := flag m "unknown_node_errors" } : Except SettingsError (Option SourceSettings)) :=
    (textList_early _).bind fun _ => (textList_early _).bind fun _ => .ok _
  unfold sourceSettings
  split
  · exact hmap []
  · exact hmap []
  · exact .ok _
  · exact hmap _
  · exact .error nofun

theorem start_early : Early (start entries) := by
  unfold start
  refine outputs_early.bind fun _ => (textList_early _).bind fun _ => .bind ?_ fun _ =>
    sourceSettings_early.bind fun _ => ?_
  · cases section? entries "plugins" with
    | none => exact .error nofun
    | some m => exact pluginsFrom_early [] m
  · split
    · exact .error nofun
    · exact .ok _

end Early

section Blanked

variable {entries : List (Data × Data)}

theorem start_style {b : Start} (h : HasSection entries "style") (hb : start entries = .ok b) :
    b.style = sectionOf entries "style" := by
  rw [start, section?_of_hasSection h] at hb
  obtain ⟨_, -, hb⟩ := bind_eq_ok_iff.mp hb
  obtain ⟨_, -, hb⟩ := bind_eq_ok_iff.mp hb
  obtain ⟨_, -, hb⟩ := bind_eq_ok_iff.mp hb
  obtain ⟨_, -, hb⟩ := bind_eq_ok_iff.mp hb
  cases hb
  rfl

theorem start_source {b : Start} (h : Setting.root.IsAbsent entries) (hb : start entries = .ok b) :
    ∃ x, b.source = some x ∧ x.root = "." := by
  rw [start, sourceSettings_of_hasSection h.1] at hb
  obtain ⟨_, -, hb⟩ := bind_eq_ok_iff.mp hb
  obtain ⟨_, -, hb⟩ := bind_eq_ok_iff.mp hb
  obtain ⟨_, -, hb⟩ := bind_eq_ok_iff.mp hb
  obtain ⟨source, hsource, hb⟩ := bind_eq_ok_iff.mp hb
  cases hx : sourceIn (sectionOf entries "parser") with
  | error e =>
    rw [hx] at hsource
    cases hsource
  | ok x =>
    rw [hx] at hsource
    cases hsource
    refine ⟨x, ?_, root_of_sourceIn h.2 hx⟩
    split at hb
    · cases hb
    · cases hb
      rfl

theorem ofData_blanked {s : Setting} (h : s.IsAbsent entries) (hroot : s ≠ .root) (hbreak : s ≠ .breakParams)
    (htab : s ≠ .tabSize) : ofData (.map (s.blanked entries)) = ofData (.map entries) := by
  rw [ofData_eq, ofData_eq]
  cases s
  case output | requires | plugins | source | style => exact congrArg (· >>= Start.finish) (start_put_null h)
  case rbi | rbs => exact congrArg (· >>= Start.finish) (start_put_outputs h.1 (outputsIn_put_null h.2))
  case included | excluded | strict =>
    have hin := (sourceIn_put_null h.2 (by decide)).trans (id_map _).symm
    have hid : (fun b : Start => { b with source := b.source.map id }) = id := by
      funext b
      rw [Option.map_id]
      rfl
    have hstart := start_put_source h.1 hin
    rw [hid, id_map] at hstart
    exact congrArg (· >>= Start.finish) hstart
  case sorted =>
    have hstart := start_put_style h.1 (m := put (sectionOf entries "style") (.text "sort_namespaces") .null)
    rw [Setting.blanked, Setting.place, hstart, bind_map_left]
    cases hb : start entries with
    | error e => rfl
    | ok b =>
      have hstyle := start_style h.1 hb
      rw [← hstyle]
      exact finish_put_sorted b (hstyle ▸ h.2)
  case root => exact absurd rfl hroot
  case breakParams => exact absurd rfl hbreak
  case tabSize => exact absurd rfl htab

theorem ofData_blanked_root (h : Setting.root.IsAbsent entries) :
    ofData (.map (Setting.root.blanked entries)) =
      (fun c => { c with source := c.source.map fun x => { x with root := "None" } }) <$> ofData (.map entries) := by
  rw [ofData_eq, ofData_eq, Setting.blanked, Setting.place, start_put_source h.1 (sourceIn_put_root h.2),
    bind_map_left, map_bind]
  refine bind_congr fun b => ?_
  rw [Start.finish, Start.finish, map_bind]
  refine bind_congr fun breakParams => ?_
  rw [map_bind]
  rfl

theorem ofData_blanked_breakParams (h : Setting.breakParams.IsAbsent entries) :
    ofData (.map (Setting.breakParams.blanked entries)) =
      start entries >>= fun _ => .error (.notPositive "break_params") := by
  rw [ofData_eq, Setting.blanked, Setting.place, start_put_style h.1, bind_map_left]
  refine bind_congr fun b => ?_
  rw [Start.finish, positive_put_null]
  rfl

theorem ofData_blanked_tabSize (h : Setting.tabSize.IsAbsent entries) :
    ofData (.map (Setting.tabSize.blanked entries)) =
      start entries >>= fun b => positive b.style "break_params" 4 >>= fun _ =>
        .error (.notPositive "tab_size") := by
  rw [ofData_eq, Setting.blanked, Setting.place, start_put_style h.1, bind_map_left]
  cases hb : start entries with
  | error e => rfl
  | ok b =>
    rw [← start_style h.1 hb]
    change Start.finish { b with style := put b.style (.text "tab_size") .null } = positive b.style "break_params" 4 >>= _
    rw [Start.finish, positive_put_of_ne (by decide), positive_put_null]
    rfl

theorem ofData_root_iff (h : Setting.root.IsAbsent entries) :
    ofData (.map (Setting.root.blanked entries)) = ofData (.map entries) ↔
      ∃ e, ofData (.map entries) = .error e := by
  rw [ofData_blanked_root h]
  cases hc : ofData (.map entries) with
  | error e => exact ⟨fun _ => ⟨e, rfl⟩, fun _ => rfl⟩
  | ok c =>
    rw [ofData_eq] at hc
    obtain ⟨b, hb, hc⟩ := bind_eq_ok_iff.mp hc
    rw [Start.finish] at hc
    obtain ⟨_, -, hc⟩ := bind_eq_ok_iff.mp hc
    obtain ⟨_, -, hc⟩ := bind_eq_ok_iff.mp hc
    obtain ⟨x, hx, hroot⟩ := start_source h hb
    constructor
    · intro heq
      cases hc
      have hsource := congrArg Config.source (Except.ok.inj heq)
      have hsame : (some { x with root := "None" } : Option SourceSettings) = some x := by
        simpa only [hx, Option.map_some] using hsource
      have hdot : "None" = x.root := congrArg SourceSettings.root (Option.some.inj hsame)
      rw [hroot] at hdot
      exact absurd hdot (by decide)
    · rintro ⟨e, he⟩
      cases he

theorem ofData_breakParams_iff (h : Setting.breakParams.IsAbsent entries) :
    ofData (.map (Setting.breakParams.blanked entries)) = ofData (.map entries) ↔
      ∃ e, ofData (.map entries) = .error e ∧ e ≠ .notPositive "tab_size" := by
  rw [ofData_blanked_breakParams h, ofData_eq]
  cases hb : start entries with
  | error e => exact ⟨fun _ => ⟨e, rfl, start_early e hb _⟩, fun _ => rfl⟩
  | ok b =>
    have hbreak : positive b.style "break_params" 4 = .ok 4 := by
      rw [start_style h.1 hb]
      exact positive_of_absent h.2 4
    change Except.error _ = b.finish ↔ ∃ e, b.finish = .error e ∧ _
    rw [Start.finish, hbreak]
    change Except.error _ = (positive b.style "tab_size" 2 >>= _) ↔
      ∃ e, (positive b.style "tab_size" 2 >>= _) = .error e ∧ _
    cases htab : positive b.style "tab_size" 2 with
    | ok tabSize => exact ⟨nofun, fun ⟨_, he, _⟩ => by cases he⟩
    | error e =>
      obtain rfl := eq_of_positive_error htab
      constructor
      · intro heq
        exact absurd (SettingsError.notPositive.inj (Except.error.inj heq)) (by decide)
      · rintro ⟨e, he, hne⟩
        cases he
        exact absurd rfl hne

theorem ofData_tabSize_iff (h : Setting.tabSize.IsAbsent entries) :
    ofData (.map (Setting.tabSize.blanked entries)) = ofData (.map entries) ↔
      ∃ e, ofData (.map entries) = .error e := by
  rw [ofData_blanked_tabSize h, ofData_eq]
  cases hb : start entries with
  | error e => exact ⟨fun _ => ⟨e, rfl⟩, fun _ => rfl⟩
  | ok b =>
    have htab : positive b.style "tab_size" 2 = .ok 2 := by
      rw [start_style h.1 hb]
      exact positive_of_absent h.2 2
    change (positive b.style "break_params" 4 >>= _) = b.finish ↔ ∃ e, b.finish = .error e
    rw [Start.finish, htab]
    cases positive b.style "break_params" 4 with
    | error e => exact ⟨fun _ => ⟨e, rfl⟩, fun _ => rfl⟩
    | ok breakParams => exact ⟨nofun, fun ⟨_, he⟩ => by cases he⟩

end Blanked

/-- A setting that is written down without a value is as one that is not there, unless it is the root
of the source or a length of the style. Those three change what comes out, except where the settings
are refused anyway, and for something that is checked before. -/
theorem ofData_blanked_iff (entries : List (Data × Data)) (s : Setting) (h : s.IsAbsent entries) :
    ofData (.map (s.blanked entries)) = ofData (.map entries) ↔
      s ∉ [Setting.root, .breakParams, .tabSize] ∨
        ∃ e, ofData (.map entries) = .error e ∧ (s = .breakParams → e ≠ .notPositive "tab_size") := by
  by_cases hmem : s ∈ [Setting.root, .breakParams, .tabSize]
  · simp only [hmem, not_true_eq_false, false_or]
    simp only [List.mem_cons, List.not_mem_nil, or_false] at hmem
    obtain rfl | rfl | rfl := hmem
    · simpa using ofData_root_iff h
    · simpa using ofData_breakParams_iff h
    · simpa using ofData_tabSize_iff h
  · simp only [hmem, not_false_eq_true, true_or, iff_true]
    simp only [List.mem_cons, List.not_mem_nil, or_false, not_or] at hmem
    exact ofData_blanked h hmem.1 hmem.2.1 hmem.2.2

theorem ofData_blanked_iff_refused :
    let entries : List (Data × Data) := [(.text "style", .map [(.text "tab_size", .int 0)])]
    Setting.root.IsAbsent entries ∧ Setting.breakParams.IsAbsent entries ∧
      ofData (.map (Setting.root.blanked entries)) = ofData (.map entries) ∧
      ofData (.map (Setting.breakParams.blanked entries)) ≠ ofData (.map entries) := by
  intro entries
  have hroot : Setting.root.IsAbsent entries := ⟨.inl rfl, rfl⟩
  have hbreak : Setting.breakParams.IsAbsent entries := ⟨.inr (.inr ⟨_, rfl⟩), rfl⟩
  have hrefused : ofData (.map entries) = .error (.notPositive "tab_size") := by rfl
  refine ⟨hroot, hbreak, ?_, ?_⟩
  · exact (ofData_blanked_iff entries .root hroot).mpr (.inr ⟨_, hrefused, nofun⟩)
  · rw [ne_eq, ofData_blanked_iff entries .breakParams hbreak]
    rintro (hmem | ⟨e, he, hne⟩)
    · exact hmem (by decide)
    · rw [hrefused] at he
      cases he
      exact hne rfl rfl

theorem blank_root_is_named :
    ¬ ∀ (entries : List (Data × Data)) (s : Setting), s.IsAbsent entries →
      ofData (.map (s.blanked entries)) = ofData (.map entries) := by
  intro hall
  have hsame := hall [(.text "parser", .map [])] .root ⟨.inr (.inr ⟨[], rfl⟩), rfl⟩
  have hroot (d : Data) (r : Except SettingsError Config) (hr : ofData d = r) :
      (ofData d).toOption.bind (fun c => c.source.map (·.root)) = r.toOption.bind fun c => c.source.map (·.root) := by
    rw [hr]
  have hnamed := hroot _ _ hsame
  have hne : ¬ (some "None" : Option String) = some "." := by decide
  exact hne hnamed

end Config

end RubyStubs
