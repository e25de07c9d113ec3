import Monitoring.Document.Reader

namespace Monitoring

inductive Body.Within (inner : Body) : Body → Prop
  | self : Within inner inner
  | block {type : String} {labels : List String} {body outer : Body}
      (mem : .block type labels body ∈ outer) (within : Within inner body) : Within inner outer

namespace Document

def DistinctBelow (s : Structure) : Prop :=
  ∀ type labels body, s = .block type labels body → ∀ inner : Body, inner.Within body →
    (inner.attributes.map Prod.fst).Nodup

variable {b : Body}

theorem nodup_of_distinctBelow (hd : attributesDistinct b = true) (hb : ∀ s ∈ b, DistinctBelow s)
    {inner : Body} (h : inner.Within b) : (inner.attributes.map Prod.fst).Nodup := by
  cases h with
  | self => exact of_decide_eq_true hd
  | block mem within => exact hb _ mem _ _ _ rfl inner within

theorem distinctBelow_attribute (name : String) (t : Term) : DistinctBelow (.attribute name t) :=
  nofun

theorem distinctBelow_block (type : String) (labels : List String)
    (hd : attributesDistinct b = true) (hb : ∀ s ∈ b, DistinctBelow s) :
    DistinctBelow (.block type labels b) := by
  rintro _ _ _ ⟨⟩ inner h
  exact nodup_of_distinctBelow hd hb h

structure ReadsDistinct (fuel : Nat) : Prop where
  ofBody : ∀ {inBlock cs b rest}, readBody fuel inBlock cs = some (b, rest) →
    ∀ s ∈ b, DistinctBelow s
  ofStructure : ∀ {cs s rest}, readStructure fuel cs = some (s, rest) → DistinctBelow s
  ofBlock : ∀ {cs b rest}, readBlock fuel cs = some (b, rest) → ∀ s ∈ b, DistinctBelow s

section Readers

variable {fuel : Nat} {inBlock : Bool} {cs rest : List Char} {s : Structure}

theorem ReadsDistinct.readBody (ih : ReadsDistinct fuel)
    (h : readBody (fuel + 1) inBlock cs = some (b, rest)) : ∀ s ∈ b, DistinctBelow s := by
  unfold Document.readBody at h
  split at h
  case h_1 =>
    split at h
    case isTrue => cases h
    case isFalse => cases h; exact List.forall_mem_nil _
  case h_2 =>
    split at h
    case isTrue => cases h; exact List.forall_mem_nil _
    case isFalse =>
      simp only [Option.bind_eq_bind, Option.bind_eq_some_iff] at h
      obtain ⟨⟨first, _⟩, hfirst, _, -, ⟨more, _⟩, hmore, h⟩ := h
      cases h
      exact List.forall_mem_cons.mpr ⟨ih.ofStructure hfirst, ih.ofBody hmore⟩

theorem ReadsDistinct.readStructure (ih : ReadsDistinct fuel)
    (h : readStructure (fuel + 1) cs = some (s, rest)) : DistinctBelow s := by
  unfold Document.readStructure at h
  simp only [Option.bind_eq_bind, Option.bind_eq_some_iff] at h
  obtain ⟨⟨name, _⟩, -, h⟩ := h
  split at h
  case h_1 =>
    simp only [Option.bind_eq_some_iff] at h
    obtain ⟨⟨t, _⟩, -, h⟩ := h
    cases h
    exact distinctBelow_attribute name t
  case h_2 =>
    simp only [Option.bind_eq_some_iff] at h
    obtain ⟨⟨labels, _⟩, -, ⟨body, _⟩, hbody, h⟩ := h
    split at h
    case isTrue hd =>
      cases h
      exact distinctBelow_block name labels hd (ih.ofBlock hbody)
    case isFalse => cases h

theorem ReadsDistinct.readBlock (ih : ReadsDistinct fuel)
    (h : readBlock (fuel + 1) cs = some (b, rest)) : ∀ s ∈ b, DistinctBelow s := by
  unfold Document.readBlock at h
  split at h
  case h_1 => exact ih.ofBody h
  case h_2 =>
    split at h
    case h_1 => cases h; exact List.forall_mem_nil _
    case h_2 =>
      simp only [Option.bind_eq_bind, Option.bind_eq_some_iff] at h
      obtain ⟨⟨first, _⟩, -, h⟩ := h
      split at h
      case h_1 =>
        cases h
        exact List.forall_mem_singleton.mpr (distinctBelow_attribute _ _)
      case h_2 => cases h

end Readers

theorem readsDistinct (fuel : Nat) : ReadsDistinct fuel := by
  induction fuel with
  | zero => exact ⟨nofun, nofun, nofun⟩
  | succ fuel ih => exact ⟨ih.readBody, ih.readStructure, ih.readBlock⟩

theorem nodup_of_parse {text : String} {inner : Body} (h : parse text = some b)
    (hw : inner.Within b) : (inner.attributes.map Prod.fst).Nodup := by
  unfold parse at h
  simp only [Option.bind_eq_bind, Option.bind_eq_some_iff] at h
  obtain ⟨⟨body, _⟩, hbody, h⟩ := h
  split at h
  case isTrue hd =>
    cases h
    exact nodup_of_distinctBelow hd ((readsDistinct _).ofBody hbody) hw
  case isFalse => cases h

end Document

end Monitoring
