import RubyStubs.Proofs.Conversion
import RubyStubs.Stub.Rbs

namespace RubyStubs

namespace Rbs

def overloadLines (st : Style) (level : Int) (head : String) : List String → List String
  | [] => []
  | s :: rest =>
    st.indented level (head ++ " " ++ s) ::
      rest.map fun s => st.indented level (Text.blanks (head.length - 1) ++ "| " ++ s)

theorem method_eq_overloadLines (st : Style) (level : Int) (name : String) (m : Method) :
    method st level name m = overloadLines st level (heading name m) ((signatures m).map Signature.render) := by
  rw [method]
  cases signatures m with
  | nil => rfl
  | cons s rest =>
    rw [List.map_cons, overloadLines, List.map_map]
    rfl

theorem overloadLines_injective (st : Style) (level : Int) (head : String) :
    Function.Injective (overloadLines st level head) := by
  have hline (before : String) : Function.Injective fun s => st.indented level (before ++ s) := by
    intro s t h
    exact (String.append_right_inj before).mp ((String.append_right_inj _).mp h)
  intro ss ts h
  cases ss with
  | nil =>
    cases ts with
    | nil => rfl
    | cons t ts => cases h
  | cons s ss =>
    cases ts with
    | nil => cases h
    | cons t ts =>
      obtain ⟨hhead, hrest⟩ := List.cons.inj h
      rw [hline _ hhead, List.map_injective_iff.mpr (hline _) hrest]

theorem method_eq_iff {m n : Method} (hlevel : m.classLevel = n.classLevel) (st : Style) (level : Int)
    (name : String) :
    method st level name m = method st level name n ↔
      (signatures m).map Signature.render = (signatures n).map Signature.render := by
  have hheading : heading name m = heading name n := by rw [heading, heading, hlevel]
  rw [method_eq_overloadLines, method_eq_overloadLines, hheading]
  exact (overloadLines_injective st level (heading name n)).eq_iff

end Rbs

namespace Convert

variable (read : Reader)

def signature (m : Method) : Signature where
  parameters := (m.parameters.filter (·.kind != .block)).map fun p => { p with type := p.type.map (type read) }
  result := m.result.map (type read)
  block := (m.parameters.find? (·.kind == .block)).bind fun p => (block read p.type).1
  typeParameters := m.typeParameters

theorem signatures_eq_singleton (m : Method) : Rbs.signatures (method read m).1 = [signature read m] := by
  cases hfind : m.parameters.find? (·.kind == .block) <;> simp [Rbs.signatures, method, signature, hfind]

theorem rbs_method_eq_iff {m : Method} (h : m.signatures ≠ []) (st : Style) (level : Int) (name : String) :
    Rbs.method st level name (method read m).1 = Rbs.method st level name m ↔
      m.signatures.map Signature.render = [(signature read m).render] := by
  have hlevel : (method read m).1.classLevel = m.classLevel := rfl
  have hsignatures : Rbs.signatures m = m.signatures := by simp [Rbs.signatures, h]
  rw [Rbs.method_eq_iff hlevel, signatures_eq_singleton, hsignatures]
  exact eq_comm

/-- A method that lists overloads is written with them after conversion if there is one and it reads as the one
made of the parameters, and in no other case. Of losing them there is no warning: the only one that the method can
give rise to is about its block. -/
theorem overloads_accounted_iff {m : Member} {b : Method} (hm : m.body = .method b) (hb : b.signatures ≠ [])
    (st : Style) (level : Int) :
    ((∃ d, (decl read (.member m)).1 = some d ∧
        Layout.node rbs st d level = Layout.node rbs st (.member m) level) ∨
      (decl read (.member m)).2 ≠ []) ↔
    b.signatures.map Signature.render = [(signature read b).render] ∨ b.hasUnfitBlock read := by
  obtain ⟨name, body, comments⟩ := m
  cases hm
  have hdecl : (decl read (.member ⟨name, .method b, comments⟩)).1 =
      some (.member ⟨name, .method (method read b).1, comments⟩) := rfl
  have hkept := method_snd read b
  apply or_congr
  · rw [← rbs_method_eq_iff read hb st level name]
    constructor
    · rintro ⟨d, hd, hlines⟩
      rw [hdecl] at hd
      cases hd
      exact List.append_cancel_left hlines
    · intro hlines
      exact ⟨_, hdecl, congrArg _ hlines⟩
  · cases hunfit : b.hasUnfitBlock read <;> simp [decl, member, hkept, hunfit]

theorem overloads_accounted_iff_single :
    let blockType : TypeExpr := .proc [] none
    let b : Method :=
      { parameters := [{ name := "a", type := some .boolean }, { name := "&blk", type := some blockType }]
        signatures :=
          [{ parameters := [{ name := "a", type := some .boolean }], block := some { type := blockType } }] }
    let m : Member := { name := "each", body := .method b }
    b.signatures.map Signature.render = [(signature default b).render] ∧
      ∃ d, (decl default (.member m)).1 = some d ∧ Layout.node rbs {} d 0 = Layout.node rbs {} (.member m) 0 := by
  intro blockType b m
  have hrender : b.signatures.map Signature.render = [(signature default b).render] := rfl
  have haccounted := (overloads_accounted_iff default (m := m) rfl (by simp [b]) {} 0).mpr (.inl hrender)
  exact ⟨hrender, haccounted.resolve_right (absurd rfl)⟩

theorem overloads_lost :
    let b : Method :=
      { signatures :=
          [{ parameters := [{ name := "a", type := some .boolean }], result := some .boolean },
            { parameters := [{ name := "b", type := some .untyped }], result := some .untyped }] }
    let m : Member := { name := "f", body := .method b }
    Layout.node rbs {} (.member m) 0 = ["def f: (bool a) -> bool", "     | (untyped b) -> untyped"] ∧
      (∃ d, (decl default (.member m)).1 = some d ∧ Layout.node rbs {} d 0 = ["def f: () -> void"]) ∧
      (decl default (.member m)).2 = [] := by
  intro b m
  refine ⟨?_, ⟨_, rfl, ?_⟩, rfl⟩
  · decide +kernel
  · decide +kernel

end Convert
end RubyStubs
