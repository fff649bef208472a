import Topaz.Sharing.Components

/-!
# Topaz.Sharing.Refinement

The resources of renderers are shared as `SharedResources` says: `Refines` relates a system
to its sharing, and every event keeps it (`Refines.step`).
-/

namespace Topaz

/-! ## refinement -/

/-- An object of the system stores its data there. -/
def Storage.Holds (w : ResourceSystem) (x : ResourceObject) : Storage → Prop
  | .own bytes => x.resourceData = none ∧ x.initialData = bytes
  | .component r j => x.dataAccess = .dynamicFixed ∧
      ∃ ρ b buffer, w.renderers r = some ρ ∧ ρ.natives[j]? = some b ∧ x.resourceData = some b ∧
        w.memory b = some buffer ∧ buffer.size = x.initialData.length
  | .lost => x.dataAccess = .dynamicFixed

structure ObjectRefines (w : ResourceSystem) (x : ResourceObject) (y : SharedObject) : Prop where
  type : x.type = y.type
  dataAccess : x.dataAccess = y.dataAccess
  buffer : x.dataAccess = .dynamicFixed → x.type = .buffer
  storage : y.storage.Holds w x

structure RendererRefines (w : ResourceSystem) (ρ : BuiltRenderer) (α : SharedRenderer) :
    Prop where
  owned : ρ.owned = α.owned
  sorted : ∃ t, Sorted ρ.natives.length t ρ.resources ∧ ρ.natives.length + t < 2 ^ 32
  values : ρ.natives.map w.memory = α.values.map fun v => some ⟨v.map some⟩

/-- The system and its sharing: the same objects and renderers, and no buffer belongs to two
components. -/
structure Refines (w : ResourceSystem) (s : SharedResources) : Prop where
  objects : ∀ o, Option.Rel (ObjectRefines w) (w.objects o) (s.objects o)
  renderers : ∀ r, Option.Rel (RendererRefines w) (w.renderers r) (s.renderers r)
  distinct : ∀ {r r' : Nat} {ρ ρ' : BuiltRenderer} {j j' : Nat} {b : NativeBuffer},
    w.renderers r = some ρ → w.renderers r' = some ρ' →
    ρ.natives[j]? = some b → ρ'.natives[j']? = some b → r = r' ∧ j = j'

namespace Refines

variable {w : ResourceSystem} {s : SharedResources} {o : ResourceAddress} {x : ResourceObject}

theorem empty : Refines .empty .empty where
  objects _ := .none
  renderers _ := .none
  distinct h := nomatch h

theorem object (h : Refines w s) (hx : w.objects o = some x) :
    ∃ y, s.objects o = some y ∧ ObjectRefines w x y :=
  exists_of_rel_some (hx ▸ h.objects o)

theorem renderer (h : Refines w s) {r : Nat} {ρ : BuiltRenderer} (hr : w.renderers r = some ρ) :
    ∃ α, s.renderers r = some α ∧ RendererRefines w ρ α :=
  exists_of_rel_some (hr ▸ h.renderers r)

theorem objects_eq_none (h : Refines w s) (hx : w.objects o = none) : s.objects o = none :=
  eq_none_of_rel_none (hx ▸ h.objects o)

theorem renderers_eq_none (h : Refines w s) {r : Nat} (hr : w.renderers r = none) :
    s.renderers r = none :=
  eq_none_of_rel_none (hr ▸ h.renderers r)

theorem typeOf_eq (h : Refines w s) : w.typeOf = s.typeOf := by
  funext o
  rw [ResourceSystem.typeOf, SharedResources.typeOf]
  cases hx : w.objects o with
  | none => rw [h.objects_eq_none hx, Option.map_none, Option.map_none]
  | some x =>
      obtain ⟨y, hy, hxy⟩ := h.object hx
      rw [hy, Option.map_some, Option.map_some, hxy.type]

end Refines

/-- The buffer of a component holds its data. -/
theorem RendererRefines.value {w : ResourceSystem} {ρ : BuiltRenderer} {α : SharedRenderer}
    (h : RendererRefines w ρ α) {j : Nat} {b : NativeBuffer} (hb : ρ.natives[j]? = some b) :
    ∃ v, α.values[j]? = some v ∧ w.memory b = some ⟨v.map some⟩ := by
  have hj := congrArg (·[j]?) h.values
  simp only [List.getElem?_map, hb, Option.map_some] at hj
  obtain ⟨v, hv, heq⟩ := Option.map_eq_some_iff.mp hj.symm
  exact ⟨v, hv, heq.symm⟩

namespace Refines

variable {w : ResourceSystem} {s : SharedResources} {o : ResourceAddress} {x : ResourceObject}

/-- An object reads the data it stores. -/
theorem getResourceBytes_eq (h : Refines w s) {y : SharedObject} (hxy : ObjectRefines w x y)
    (hkept : y.storage ≠ .lost) :
    ∃ v, s.value y = some v ∧ w.getResourceBytes x = some (v.map some) ∧
      v.length = x.initialData.length := by
  have hholds := hxy.storage
  unfold SharedResources.value ResourceSystem.getResourceBytes
  cases hy : y.storage with
  | own bytes =>
      rw [hy] at hholds
      obtain ⟨hnone, rfl⟩ := hholds
      exact ⟨x.initialData, rfl, by rw [hnone], rfl⟩
  | lost => exact absurd hy hkept
  | component r j =>
      rw [hy] at hholds
      obtain ⟨-, ρ, b, buffer, hr, hb, hdata, hbuffer, hsize⟩ := hholds
      obtain ⟨α, hα, hrefines⟩ := h.renderer hr
      obtain ⟨v, hv, hmemory⟩ := hrefines.value hb
      obtain rfl : buffer = ⟨v.map some⟩ := Option.some.inj (hbuffer.symm.trans hmemory)
      rw [Buffer.size, List.length_map] at hsize
      refine ⟨v, by simp [SharedResources.componentValue, hα, hv], ?_, hsize⟩
      rw [hdata]
      simp [hmemory, Buffer.read, slice, ← hsize]

theorem hostBytes_eq (h : Refines w s) (hkept : s.Kept o) :
    w.hostBytes o = (s.valueOf o).map (List.map some) := by
  rw [ResourceSystem.hostBytes, SharedResources.valueOf]
  cases hx : w.objects o with
  | none => rw [h.objects_eq_none hx, Option.bind_none, Option.bind_none, Option.map_none]
  | some x =>
      obtain ⟨y, hy, hxy⟩ := h.object hx
      obtain ⟨v, hv, hbytes, -⟩ := h.getResourceBytes_eq hxy (hkept y hy)
      rw [hy, Option.bind_some, Option.bind_some, hv, hbytes, Option.map_some]

/-- The memory that an object with kept data points to is there. -/
theorem memory_isSome (h : Refines w s) (hx : w.objects o = some x) (hkept : s.Kept o)
    {b : NativeBuffer} (hb : x.resourceData = some b) : w.memory b ≠ none := by
  obtain ⟨y, hy, hxy⟩ := h.object hx
  obtain ⟨v, -, hbytes, -⟩ := h.getResourceBytes_eq hxy (hkept y hy)
  intro hnone
  simp [ResourceSystem.getResourceBytes, hb, hnone] at hbytes

theorem staticOwn (h : Refines w s) : w.StaticOwn := by
  intro o x hx ha
  obtain ⟨y, hy, hxy⟩ := h.object hx
  have hholds := hxy.storage
  cases hstorage : y.storage with
  | own bytes =>
      rw [hstorage] at hholds
      exact hholds.1
  | component r j =>
      rw [hstorage] at hholds
      exact absurd (ha.symm.trans hholds.1) (by decide)
  | lost =>
      rw [hstorage] at hholds
      exact absurd (ha.symm.trans hholds) (by decide)

end Refines

/-! ## objects -/

/-- The renderers of `w` are in `w'` too, and buffers of the sizes they have. -/
structure ResourceSystem.Extends (w w' : ResourceSystem) : Prop where
  renderers : ∀ r ρ, w.renderers r = some ρ → w'.renderers r = some ρ
  memory : ∀ b buffer, w.memory b = some buffer →
    ∃ buffer', w'.memory b = some buffer' ∧ buffer'.size = buffer.size

theorem ObjectRefines.extends {w w' : ResourceSystem} (hw : w.Extends w') (x : ResourceObject)
    (y : SharedObject) (h : ObjectRefines w x y) : ObjectRefines w' x y := by
  refine { h with storage := ?_ }
  have hholds := h.storage
  cases hy : y.storage with
  | own bytes =>
      rw [hy] at hholds
      exact hholds
  | lost =>
      rw [hy] at hholds
      exact hholds
  | component r j =>
      rw [hy] at hholds
      obtain ⟨hdynamic, ρ, b, buffer, hr, hb, hdata, hbuffer, hsize⟩ := hholds
      obtain ⟨buffer', hbuffer', hsize'⟩ := hw.memory b buffer hbuffer
      exact ⟨hdynamic, ρ, b, buffer', hw.renderers r ρ hr, hb, hdata, hbuffer',
        hsize'.trans hsize⟩

theorem RendererRefines.congr {w w' : ResourceSystem} {ρ : BuiltRenderer} {α : SharedRenderer}
    (h : RendererRefines w ρ α) (hmemory : ∀ b ∈ ρ.natives, w'.memory b = w.memory b) :
    RendererRefines w' ρ α :=
  { h with values := (List.map_congr_left hmemory).trans h.values }

namespace Refines

variable {w : ResourceSystem} {s : SharedResources}

/-- Only objects change. -/
theorem withObjects (h : Refines w s) {f : ResourceAddress → Option ResourceObject}
    {g : ResourceAddress → Option SharedObject}
    (hfg : ∀ o, Option.Rel (ObjectRefines w) (f o) (g o)) :
    Refines { w with objects := f } { s with objects := g } where
  objects o := by
    refine rel_mono (ObjectRefines.extends ?_) (hfg o)
    exact ⟨fun _ _ hr => hr, fun _ b hb => ⟨b, hb, rfl⟩⟩
  renderers r := rel_mono (fun _ _ hρ => hρ.congr fun _ _ => rfl) (h.renderers r)
  distinct := h.distinct

end Refines

/-! ## writes -/

theorem map_splice {α β : Type} (f : α → β) (data bytes : List α) (position : Nat) :
    (splice data position bytes.length bytes).map f =
      splice (data.map f) position (bytes.map f).length (bytes.map f) := by
  simp [splice]

theorem memcpy_map_some {data bytes : List UInt8} {position : Nat}
    (h : position + bytes.length ≤ data.length) :
    (Buffer.mk (data.map some)).memcpy position (bytes.map some) =
      ⟨(splice data position bytes.length bytes).map some⟩ := by
  have hsize : (Buffer.mk (data.map some)).size = data.length := List.length_map ..
  have hread : ((Buffer.mk (data.map some)).memcpy (0 + position) (bytes.map some)).read 0
      (Buffer.mk (data.map some)).size = _ :=
    Buffer.read_memcpy_within _ _ (by rwa [hsize, List.length_map]) (Nat.zero_add _).le
  rw [Nat.zero_add, Buffer.read_size, ← Buffer.size_memcpy _ position (bytes.map some),
    Buffer.read_size] at hread
  rw [map_splice]
  exact congrArg Buffer.mk hread

theorem RendererRefines.write {w : ResourceSystem} {ρ : BuiltRenderer} {α : SharedRenderer}
    (h : RendererRefines w ρ α) {j position : Nat} {b : NativeBuffer} {v bytes : List UInt8}
    (hb : ρ.natives[j]? = some b) (honly : ∀ k, ρ.natives[k]? = some b → k = j)
    (hv : α.values[j]? = some v) (hfit : position + bytes.length ≤ v.length) :
    RendererRefines (w.writeMemory b position (bytes.map some)) ρ
      { α with values := α.values.modify j fun data =>
          splice data position bytes.length bytes } := by
  refine { h with values := List.ext_getElem? fun k => ?_ }
  have hk := congrArg (·[k]?) h.values
  simp only [List.getElem?_map] at hk
  simp only [List.getElem?_map, List.getElem?_modify]
  by_cases hkj : k = j
  · subst hkj
    rw [hb, hv] at hk ⊢
    simp only [Option.map_some, Option.some.injEq] at hk
    simp [ResourceSystem.writeMemory, hk, memcpy_map_some hfit]
  · have hne : ∀ b', ρ.natives[k]? = some b' → b' ≠ b := fun b' hb' heq =>
      hkj (honly k (heq ▸ hb'))
    cases hb' : ρ.natives[k]? with
    | none =>
        rw [hb'] at hk
        simp [Option.map_eq_none_iff.mp hk.symm]
    | some b' =>
        rw [hb'] at hk
        obtain ⟨v', hv', heq⟩ := Option.map_eq_some_iff.mp hk.symm
        simp [hv', heq, ResourceSystem.writeMemory, Function.update_of_ne (hne b' hb'),
          Ne.symm hkj]

theorem ResourceSystem.extends_writeMemory (w : ResourceSystem) (b : NativeBuffer)
    (position : Nat) (bytes : List (Option UInt8)) :
    w.Extends (w.writeMemory b position bytes) := by
  refine ⟨fun _ _ hr => hr, fun b' buffer hbuffer => ?_⟩
  by_cases heq : b' = b
  · subst heq
    exact ⟨buffer.memcpy position bytes, by simp [writeMemory, hbuffer], Buffer.size_memcpy ..⟩
  · exact ⟨buffer, (Function.update_of_ne heq ..).trans hbuffer, rfl⟩

/-- A write to a component shows in that component. -/
theorem Refines.writeComponent {w : ResourceSystem} {s : SharedResources} (h : Refines w s)
    {r j position : Nat} {ρ : BuiltRenderer} {b : NativeBuffer} {bytes : List UInt8}
    {buffer : Buffer UInt8} (hr : w.renderers r = some ρ) (hb : ρ.natives[j]? = some b)
    (hbuffer : w.memory b = some buffer) (hfit : position + bytes.length ≤ buffer.size) :
    Refines (w.writeMemory b position (bytes.map some))
      { s with
        renderers := Function.update s.renderers r ((s.renderers r).map fun α =>
          { α with values := α.values.modify j fun data =>
              splice data position bytes.length bytes }) } := by
  obtain ⟨α, hα, hrefines⟩ := h.renderer hr
  obtain ⟨v, hv, hmemory⟩ := hrefines.value hb
  obtain rfl : buffer = ⟨v.map some⟩ := Option.some.inj (hbuffer.symm.trans hmemory)
  rw [Buffer.size, List.length_map] at hfit
  have hself := hrefines.write hb (fun k hk => (h.distinct hr hr hk hb).2) hv hfit
  -- no other renderer has the buffer
  have hother : ∀ r', r' ≠ r → Option.Rel
      (RendererRefines (w.writeMemory b position (bytes.map some))) (w.renderers r')
      (s.renderers r') := by
    intro r' hne
    cases hr' : w.renderers r' with
    | none =>
        rw [h.renderers_eq_none hr']
        exact .none
    | some ρ' =>
        obtain ⟨α', hα', hrefines'⟩ := h.renderer hr'
        rw [hα']
        refine .some (hrefines'.congr fun b' hb' => Function.update_of_ne ?_ ..)
        rintro rfl
        obtain ⟨j', hj'⟩ := List.mem_iff_getElem?.mp hb'
        exact hne (h.distinct hr' hr hj' hb).1
  have hrenderers := rel_update hother (Option.Rel.some hself)
  rw [← hr, Function.update_eq_self] at hrenderers
  rw [hα, Option.map_some]
  exact ⟨fun o => rel_mono (ObjectRefines.extends (w.extends_writeMemory ..)) (h.objects o),
    hrenderers, h.distinct⟩

theorem Refines.write {w : ResourceSystem} {s : SharedResources} (h : Refines w s)
    {o : ResourceAddress} {position : Nat} {bytes : List UInt8}
    (he : w.Enabled (.write o position bytes)) (hsafe : s.Safe (.write o position bytes)) :
    Refines (w.write o position bytes) (s.write o position bytes) := by
  obtain ⟨x, hx, -, hfit⟩ := he
  obtain ⟨y, hy, hxy⟩ := h.object hx
  have hholds := hxy.storage
  rw [ResourceSystem.write, SharedResources.write, Option.mem_def.mp hx, hy]
  cases hstorage : y.storage with
  | lost => exact absurd hstorage (hsafe y hy)
  | own data =>
      rw [hstorage] at hholds
      obtain ⟨hnone, rfl⟩ := hholds
      simp only [hnone, hstorage]
      refine h.withObjects (rel_update (fun o _ => h.objects o) (.some ?_))
      exact { hxy with storage := ⟨rfl, rfl⟩ }
  | component r j =>
      rw [hstorage] at hholds
      obtain ⟨-, ρ, b, buffer, hr, hb, hdata, hbuffer, hsize⟩ := hholds
      simp only [hdata, hstorage]
      exact h.writeComponent hr hb hbuffer (hsize ▸ hfit)

/-! ## destroying a renderer -/

theorem SharedObject.release_type (r : Nat) (y : SharedObject) :
    (y.release r).type = y.type ∧ (y.release r).dataAccess = y.dataAccess := by
  unfold SharedObject.release
  split
  · split <;> exact ⟨rfl, rfl⟩
  · exact ⟨rfl, rfl⟩

theorem Refines.destroyRenderer {w : ResourceSystem} {s : SharedResources} (h : Refines w s)
    {r : Nat} (he : w.Enabled (.destroyRenderer r)) :
    Refines (w.destroyRenderer r) (s.destroyRenderer r) := by
  obtain ⟨ρ, hr⟩ := Option.ne_none_iff_exists'.mp he
  obtain ⟨α, hα, hrefines⟩ := h.renderer hr
  have howned := hrefines.owned
  -- what the other renderers have is left alone
  have hkept : ∀ {r' : Nat} {ρ' : BuiltRenderer} {j : Nat} {b : NativeBuffer}, r' ≠ r →
      w.renderers r' = some ρ' → ρ'.natives[j]? = some b → b ∉ ρ.natives := by
    intro r' ρ' j b hne hr' hb hmem
    obtain ⟨j', hj'⟩ := List.mem_iff_getElem?.mp hmem
    exact hne (h.distinct hr' hr hb hj').1
  have hw : w.destroyRenderer r =
      { objects := fun o => if o ∈ ρ.owned then none else w.objects o
        memory := fun b => if b ∈ ρ.natives then none else w.memory b
        renderers := Function.update w.renderers r none } := by
    simp [ResourceSystem.destroyRenderer, hr]
  have hs : s.destroyRenderer r =
      { objects := fun o =>
          if o ∈ ρ.owned then none else (s.objects o).map (SharedObject.release r)
        renderers := Function.update s.renderers r none } := by
    simp [SharedResources.destroyRenderer, hα, howned]
  rw [hw, hs]
  constructor
  · intro o
    by_cases ho : o ∈ ρ.owned
    · simp [ho]
    · simp only [ho, if_false]
      cases hx : w.objects o with
      | none =>
          rw [h.objects_eq_none hx]
          exact .none
      | some x =>
          obtain ⟨y, hy, hxy⟩ := h.object hx
          rw [hy]
          obtain ⟨htype, haccess⟩ := y.release_type r
          refine .some ⟨hxy.type.trans htype.symm, hxy.dataAccess.trans haccess.symm, hxy.buffer, ?_⟩
          have hholds := hxy.storage
          unfold SharedObject.release
          cases hstorage : y.storage with
          | own bytes =>
              rw [hstorage] at hholds
              simp only [hstorage]
              exact hholds
          | lost =>
              rw [hstorage] at hholds
              simp only [hstorage]
              exact hholds
          | component r' j =>
              rw [hstorage] at hholds
              obtain ⟨hdynamic, ρ', b, buffer, hr', hb, hdata, hbuffer, hsize⟩ := hholds
              by_cases heq : r' = r
              · simpa [heq, Storage.Holds] using hdynamic
              · simp only [heq, if_false, hstorage]
                exact ⟨hdynamic, ρ', b, buffer, (Function.update_of_ne heq ..).trans hr', hb, hdata,
                  (if_neg (hkept heq hr' hb)).trans hbuffer, hsize⟩
  · refine rel_update (fun r' hne => ?_) .none
    cases hr' : w.renderers r' with
    | none =>
        rw [h.renderers_eq_none hr']
        exact .none
    | some ρ' =>
        obtain ⟨α', hα', hrefines'⟩ := h.renderer hr'
        rw [hα']
        refine .some (hrefines'.congr fun b hb => ?_)
        obtain ⟨j, hj⟩ := List.mem_iff_getElem?.mp hb
        exact if_neg (hkept hne hr' hj)
  · intro r₁ r₂ ρ₁ ρ₂ j₁ j₂ b h₁ h₂
    have hold : ∀ {r' ρ'}, Function.update w.renderers r none r' = some ρ' →
        w.renderers r' = some ρ' := by
      intro r' ρ' hr'
      by_cases heq : r' = r
      · subst heq
        simp at hr'
      · rwa [Function.update_of_ne heq] at hr'
    exact h.distinct (hold h₁) (hold h₂)

/-! ## creating a renderer -/

section Create

variable {w : ResourceSystem} {s : SharedResources} {r : Nat}
  {added clones : List ResourceAddress} {natives : List NativeBuffer}

theorem Refines.creatable (h : Refines w s)
    (he : w.Enabled (.createRenderer r added clones natives))
    (hsafe : s.Safe (.createRenderer r added clones natives)) :
    Creatable (cloneOrder w.typeOf added) clones natives w := by
  obtain ⟨-, -, hlive, hclones, hlen, -, hnatives, hcount, hnew⟩ := he
  have htypes : ∀ o ∈ added, w.typeOf o ≠ none := fun o ho => by
    rw [ResourceSystem.typeOf, Ne, Option.map_eq_none_iff]
    exact hlive o ho
  have hlength : (cloneOrder w.typeOf added).length = clones.length :=
    (length_cloneOrder htypes).trans hlen.symm
  refine ⟨hclones, hnatives, hlength, ?_, fun o ho => ?_, fun o ho x hx b hb hdata => ?_,
    h.staticOwn⟩
  · rw [hcount, ← hlength, cloneOrder, List.length_append]
    exact Nat.le_add_right ..
  · exact Option.ne_none_iff_exists'.mp (hlive o (mem_of_mem_cloneOrder ho))
  · -- a source points to memory that is there, and new buffers are not
    exact h.memory_isSome hx (hsafe o (mem_of_mem_cloneOrder ho)) hdata (hnew b hb)

/-- The renderer that is built has its resources in order. -/
theorem sorted_createRenderer (he : w.Enabled (.createRenderer r added clones natives)) :
    ∃ t, Sorted natives.length t (RendererResources.build (ResourceBuilder.empty.addResources
        (added.filterMap fun o => (w.objects o).map ResourceObject.resource)).1) ∧
      natives.length + t < 2 ^ 32 := by
  obtain ⟨-, hlt, -, -, -, -, -, hcount, -⟩ := he
  have hsorted := sorted_build (added.filterMap fun o => (w.objects o).map ResourceObject.resource)
  have hsum := length_resourcesOf_add
    (added.filterMap fun o => (w.objects o).map ResourceObject.resource)
  have hle := List.length_filterMap_le (fun o => (w.objects o).map ResourceObject.resource) added
  rw [length_resourcesOf_objects, ← hcount] at hsorted hsum
  exact ⟨_, hsorted, by omega⟩

/-- The buffers of renderers that are there are not new. -/
theorem Refines.notMem_natives (h : Refines w s)
    (he : w.Enabled (.createRenderer r added clones natives)) {r' j : Nat} {ρ' : BuiltRenderer}
    {b : NativeBuffer} (hr' : w.renderers r' = some ρ') (hb : ρ'.natives[j]? = some b) :
    b ∉ natives := by
  obtain ⟨-, -, -, -, -, -, -, -, hnew⟩ := he
  obtain ⟨α', -, hrefines⟩ := h.renderer hr'
  obtain ⟨v, -, hmemory⟩ := hrefines.value hb
  intro hmem
  rw [hnew b hmem] at hmemory
  cases hmemory

/-- A clone is an object of its renderer. -/
theorem Created.objectRefines {w' : ResourceSystem} (h : Refines w s)
    (hcreated : Created (cloneOrder w.typeOf added) clones natives w w') (hextends : w.Extends w')
    (hcount : natives.length = (addressesOf w.typeOf .buffer added).length)
    {ρ : BuiltRenderer} (hr : w'.renderers r = some ρ) (hρ : ρ.natives = natives) {j : Nat}
    {c o : ResourceAddress} (hc : clones[j]? = some c) (ho : (cloneOrder w.typeOf added)[j]? = some o)
    (hkept : s.Kept o) {x : ResourceObject} {y : SharedObject} (hx : w.objects o = some x)
    (hy : s.objects o = some y) (hxy : ObjectRefines w x y) :
    ∃ x', w'.objects c = some x' ∧ ObjectRefines w' x' (y.clone r j) := by
  have hshared := hxy.dataAccess
  cases ha : x.dataAccess with
  | staticFixed =>
      have hclone : y.clone r j = y := by simp [SharedObject.clone, ← hshared, ha]
      refine ⟨x, ?_, hclone.symm ▸ hxy.extends hextends⟩
      cases hb : natives[j]? with
      | none => exact (hcreated.cloned hc ho (List.getElem?_eq_none_iff.mp hb)).trans hx
      | some b =>
          rw [← x.attach_static ha b]
          exact (hcreated.attached hc ho hb hx).1
  | dynamicFixed =>
      have hj : j < natives.length := by
        rw [hcount]
        refine lt_of_cloneOrder_buffer ho ?_
        rw [ResourceSystem.typeOf, hx, Option.map_some, hxy.buffer ha]
      have hb := List.getElem?_eq_getElem hj
      obtain ⟨hobject, hmemory⟩ := hcreated.attached hc ho hb hx
      obtain ⟨v, -, hbytes, hlength⟩ := h.getResourceBytes_eq hxy (hkept y hy)
      rw [hbytes, Option.getD_some] at hmemory
      have hclone : y.clone r j = { y with storage := .component r j } := by
        simp [SharedObject.clone, ← hshared, ha]
      rw [x.attach_dynamic ha] at hobject
      refine ⟨_, hobject, hclone.symm ▸ ⟨hxy.type, hshared, hxy.buffer, ha, ρ, natives[j], _, hr,
        by rw [hρ, hb], rfl, hmemory, ?_⟩⟩
      rw [Buffer.size, List.length_map, hlength]

/-- The components of a new renderer hold the data of what was added. -/
theorem Created.values {w' : ResourceSystem} (h : Refines w s)
    (hcreated : Created (cloneOrder w.typeOf added) clones natives w w')
    (hcreatable : Creatable (cloneOrder w.typeOf added) clones natives w)
    (hcount : natives.length = (addressesOf w.typeOf .buffer added).length)
    (hkept : ∀ o ∈ added, s.Kept o) :
    natives.map w'.memory = ((addressesOf s.typeOf .buffer added).map fun o =>
      (s.valueOf o).getD []).map fun v => some ⟨v.map some⟩ := by
  rw [← h.typeOf_eq]
  refine List.ext_getElem? fun j => ?_
  simp only [List.getElem?_map]
  cases hb : natives[j]? with
  | none =>
      have hge := List.getElem?_eq_none_iff.mp hb
      rw [List.getElem?_eq_none_iff.mpr (hcount ▸ hge)]
      rfl
  | some b =>
      have hj : j < natives.length := (List.getElem?_eq_some_iff.mp hb).1
      have hbuffer : (cloneOrder w.typeOf added)[j]? = (addressesOf w.typeOf .buffer added)[j]? :=
        List.getElem?_append_left (hcount ▸ hj)
      have hc := List.getElem?_eq_getElem (Nat.lt_of_lt_of_le hj hcreatable.natives_le)
      obtain ⟨o, hmem, ho, x, hx, -⟩ := hcreatable.source hc
      obtain ⟨y, hy, hxy⟩ := h.object hx
      have hsafe := hkept o (mem_of_mem_cloneOrder hmem)
      obtain ⟨v, hv, hbytes, -⟩ := h.getResourceBytes_eq hxy (hsafe y hy)
      have hmemory := (hcreated.attached hc ho hb hx).2
      rw [hbytes, Option.getD_some] at hmemory
      rw [← hbuffer, ho, Option.map_some, Option.map_some, Option.map_some, hmemory,
        SharedResources.valueOf, hy, Option.bind_some, hv, Option.getD_some]

theorem Refines.createRenderer (h : Refines w s) (backend : Backend)
    (he : w.Enabled (.createRenderer r added clones natives))
    (hsafe : s.Safe (.createRenderer r added clones natives)) :
    Refines (w.createRenderer backend r added clones natives)
      (s.createRenderer r added clones) := by
  have hcreatable := h.creatable he hsafe
  have hsorted := sorted_createRenderer he
  have hfresh : ∀ {r' j : Nat} {ρ' : BuiltRenderer} {b : NativeBuffer},
      w.renderers r' = some ρ' → ρ'.natives[j]? = some b → b ∉ natives := h.notMem_natives he
  obtain ⟨hr, -, -, -, -, -, -, hcount, hnew⟩ := he
  have hcreated : Created (cloneOrder w.typeOf added) clones natives w
      (w.createRenderer backend r added clones natives) :=
    { hcreatable.created backend with }
  generalize hρ : BuiltRenderer.mk (RendererResources.build (ResourceBuilder.empty.addResources
    (added.filterMap fun o => (w.objects o).map ResourceObject.resource)).1) clones natives = ρ
  have hrenderers : (w.createRenderer backend r added clones natives).renderers =
      Function.update w.renderers r (some ρ) := by
    rw [← hρ]
    rfl
  generalize w.createRenderer backend r added clones natives = w' at hcreated hrenderers ⊢
  have hself : w'.renderers r = some ρ := by rw [hrenderers, Function.update_self]
  have hextends : w.Extends w' := by
    refine ⟨fun r' ρ' hr' => ?_, fun b buffer hb => ⟨buffer, ?_, rfl⟩⟩
    · rw [hrenderers, Function.update_of_ne ?_, hr']
      rintro rfl
      rw [hr] at hr'
      cases hr'
    · rw [hcreated.memory_other b ?_, hb]
      intro hmem
      rw [hnew b hmem] at hb
      cases hb
  constructor
  · intro c
    by_cases hc : c ∈ clones
    · obtain ⟨j, hj⟩ := List.mem_iff_getElem?.mp hc
      obtain ⟨o, hmem, ho, x, hx, -⟩ := hcreatable.source hj
      obtain ⟨y, hy, hxy⟩ := h.object hx
      obtain ⟨x', hx', hrefines⟩ := hcreated.objectRefines h hextends hcount hself (by rw [← hρ])
        hj ho (hsafe o (mem_of_mem_cloneOrder hmem)) hx hy hxy
      have hclone : (s.createRenderer r added clones).objects c = some (y.clone r j) := by
        refine place_getElem hcreatable.clones_nodup hj ?_
        rw [List.getElem?_mapIdx, ← h.typeOf_eq, ho, Option.map_some, hy, Option.map_some]
      rw [hx', hclone]
      exact .some hrefines
    · have hclone : (s.createRenderer r added clones).objects c = s.objects c := place_of_notMem hc
      rw [hcreated.objects_other c hc, hclone]
      exact rel_mono (ObjectRefines.extends hextends) (h.objects c)
  · rw [hrenderers]
    refine rel_update (fun r' hne => ?_) (.some ?_)
    · cases hr' : w.renderers r' with
      | none =>
          rw [h.renderers_eq_none hr']
          exact .none
      | some ρ' =>
          obtain ⟨α', hα', hrefines'⟩ := h.renderer hr'
          rw [hα']
          refine .some (hrefines'.congr fun b hb => hcreated.memory_other b ?_)
          obtain ⟨j, hj⟩ := List.mem_iff_getElem?.mp hb
          exact hfresh hr' hj
    · rw [← hρ]
      exact ⟨rfl, hsorted, hcreated.values h hcreatable hcount hsafe⟩
  · intro r₁ r₂ ρ₁ ρ₂ j₁ j₂ b h₁ h₂ hb₁ hb₂
    rw [hrenderers, Function.update_apply] at h₁ h₂
    split at h₁ <;> split at h₂
    · next heq₁ heq₂ =>
        obtain rfl := Option.some.inj h₁
        obtain rfl := Option.some.inj h₂
        rw [← hρ] at hb₁ hb₂
        exact ⟨heq₁.trans heq₂.symm, (List.getElem?_inj (List.getElem?_eq_some_iff.mp hb₁).1
          hcreatable.natives_nodup).mp (hb₁.trans hb₂.symm)⟩
    · obtain rfl := Option.some.inj h₁
      rw [← hρ] at hb₁
      exact absurd (List.mem_of_getElem? hb₁) (hfresh h₂ hb₂)
    · obtain rfl := Option.some.inj h₂
      rw [← hρ] at hb₂
      exact absurd (List.mem_of_getElem? hb₂) (hfresh h₁ hb₁)
    · exact h.distinct h₁ h₂ hb₁ hb₂

end Create

/-! ## runs -/

namespace Refines

variable {w : ResourceSystem} {s : SharedResources} {backend : Backend}

theorem step (h : Refines w s) {e : ResourceEvent} (he : w.Enabled e) (hsafe : s.Safe e) :
    Refines (w.next backend e) (s.next e) := by
  cases e with
  | construct o resource =>
      refine h.withObjects (rel_update (fun o _ => h.objects o) (.some ?_))
      exact ⟨rfl, rfl, he.2.2, rfl, rfl⟩
  | copy o source | assign o source =>
      exact h.withObjects (rel_update (fun o _ => h.objects o) (h.objects source))
  | destroy o => exact h.withObjects (rel_update (fun o _ => h.objects o) .none)
  | write o position bytes => exact h.write he hsafe
  | createRenderer r added clones natives => exact h.createRenderer backend he hsafe
  | destroyRenderer r => exact h.destroyRenderer he

theorem run (h : Refines w s) {es : List ResourceEvent} {w' : ResourceSystem}
    (hrun : (ResourceSystem.machine backend).run w es = some w') (hsafe : s.SafeRun es) :
    Refines w' (es.foldl SharedResources.next s) := by
  induction es generalizing w s with
  | nil =>
      obtain rfl := Option.some.inj hrun
      exact h
  | cons e es ih =>
      obtain ⟨he, hrest⟩ := (Machine.run_cons _).mp hrun
      exact ih (h.step he hsafe.1) hrest hsafe.2

end Refines

/-! ## bindings -/

/-- The resources are bound in order in both backends. -/
theorem Sorted.bindings_eq {b t : Nat} {resources : RendererResources}
    (h : Sorted b t resources) (hlt : b + t < 2 ^ 32) (backend : Backend) :
    backend.bindings resources = bindingsInOrder b (b + t) := by
  cases backend with
  | ogl => exact h.resourceBindings_eq hlt
  | vulkan =>
      rw [Backend.bindings, h.buffers, h.textures]
      exact h.descriptorRequest_eq hlt

theorem find?_zip_range' {α : Type} (xs : List α) (m k : Nat) :
    (((List.range' m xs.length).zip xs).find? fun p => p.1 = m + k) =
      (xs[k]?).map fun x => (m + k, x) := by
  induction xs generalizing m k with
  | nil => rfl
  | cons x xs ih =>
      rw [List.length_cons, List.range'_succ, List.zip_cons_cons, List.find?_cons]
      cases k with
      | zero => simp
      | succ k =>
          have hih := ih (m + 1) k
          rw [Nat.add_assoc, Nat.add_comm 1 k] at hih
          simpa using hih

/-- Uniform buffer `n` is resource `n`, if that is a buffer. -/
theorem find?_bindingsInOrder (b t n : Nat) :
    ((bindingsInOrder b (b + t)).find? fun binding =>
        binding.type = .uniformBuffer ∧ binding.number = n) =
      if n < b then some ⟨.uniformBuffer, n, some n⟩ else none := by
  have hp : ∀ j, bindingType b j = .uniformBuffer ↔ j < b := fun j => by simp [bindingType]
  rw [bindingsInOrder, List.find?_map]
  split
  · next hn =>
      have hfind : (List.range (b + t)).find? ((fun binding : ResourceBinding =>
          decide (binding.type = .uniformBuffer ∧ binding.number = n)) ∘ fun j =>
          ⟨bindingType b j, j, some j⟩) = some n := by
        rw [List.find?_range_eq_some]
        refine ⟨by simp [hp, hn], List.mem_range.mpr (Nat.lt_add_right t hn), fun j hj => ?_⟩
        simp [Nat.ne_of_lt hj]
      rw [hfind, Option.map_some, (hp n).mpr hn]
  · next hn =>
      rw [Option.map_eq_none_iff, List.find?_range_eq_none]
      rintro j -
      simp only [Function.comp_apply, Bool.not_eq_true', decide_eq_false_iff_not, hp, not_and]
      rintro hj rfl
      exact hn hj

/-- Uniform buffer `n` is component `n`. -/
theorem RendererRefines.bufferAt_eq {w : ResourceSystem} {ρ : BuiltRenderer} {α : SharedRenderer}
    (h : RendererRefines w ρ α) (backend : Backend) (n : Nat) :
    ρ.bufferAt backend n = ρ.natives[n]? := by
  obtain ⟨t, hsorted, hlt⟩ := h.sorted
  rw [BuiltRenderer.bufferAt, hsorted.bindings_eq hlt, hsorted.bufferResources,
    find?_bindingsInOrder]
  split
  · have hzip := find?_zip_range' ρ.natives 0 n
    rw [← List.range_eq_range', Nat.zero_add] at hzip
    rw [Option.bind_some, Option.bind_some, hzip, Option.map_map]
    exact congrFun Option.map_id ρ.natives[n]?
  · next hn => rw [Option.bind_none, List.getElem?_eq_none (Nat.le_of_not_lt hn)]

theorem Refines.shaderBytes_eq {w : ResourceSystem} {s : SharedResources} (h : Refines w s)
    (backend : Backend) (r n : Nat) :
    w.shaderBytes backend r n = (s.componentValue r n).map (List.map some) := by
  rw [ResourceSystem.shaderBytes, SharedResources.componentValue]
  cases hr : w.renderers r with
  | none => rw [h.renderers_eq_none hr, Option.bind_none, Option.bind_none, Option.map_none]
  | some ρ =>
      obtain ⟨α, hα, hrefines⟩ := h.renderer hr
      have hn := congrArg (·[n]?) hrefines.values
      simp only [List.getElem?_map] at hn
      rw [hα, Option.bind_some, Option.bind_some, hrefines.bufferAt_eq]
      cases hb : ρ.natives[n]? with
      | none =>
          rw [hb, Option.map_none] at hn
          rw [Option.map_eq_none_iff.mp hn.symm, Option.bind_none, Option.map_none]
      | some b =>
          obtain ⟨v, hv, hmemory⟩ := hrefines.value hb
          rw [hv, Option.bind_some, hmemory, Option.map_some, Option.map_some]

/-- **Shared data**: in both backends, after any use of resources and renderers, the shaders of
every renderer read from uniform buffer `n` the data of its component `n`, and every object
reads its own data, or that of the component it shares; provided nothing has been written or
cloned through an object whose data has gone with a renderer.  Where the driver puts its
buffers does not show. -/
theorem resources_seen_as_shared (backend : Backend) (es : List ResourceEvent)
    (w : ResourceSystem) (hrun : (ResourceSystem.machine backend).run .empty es = some w)
    (hsafe : SharedResources.empty.SafeRun es) :
    (∀ r n, w.shaderBytes backend r n =
      ((es.foldl SharedResources.next .empty).componentValue r n).map (List.map some)) ∧
    ∀ o, (es.foldl SharedResources.next .empty).Kept o →
      w.hostBytes o = ((es.foldl SharedResources.next .empty).valueOf o).map (List.map some) := by
  have h := Refines.empty.run hrun hsafe
  exact ⟨h.shaderBytes_eq backend, fun o hkept => h.hostBytes_eq hkept⟩

/-- A renderer is built with a dynamic buffer, its clone is copied, a second renderer is built
with the copy, and the copy is written to. -/
def copiedResource : List ResourceEvent :=
  [.construct 0 ⟨.buffer, .dynamicFixed, [1, 2]⟩, .createRenderer 0 [0] [1] [7],
    .copy 2 1, .createRenderer 1 [2] [3] [8], .write 2 1 [9]]

/-- The write shows in the first renderer and in the copy, and not in the second renderer. -/
theorem resources_seen_copiedResource :
    ∃ w, (ResourceSystem.machine .vulkan).run .empty copiedResource = some w ∧
      w.shaderBytes .vulkan 0 0 = some [some 1, some 9] ∧
      w.shaderBytes .vulkan 1 0 = some [some 1, some 2] ∧
      w.hostBytes 2 = some [some 1, some 9] := by
  have h := resources_seen_as_shared .vulkan copiedResource _ rfl (by decide)
  exact ⟨_, rfl, (h.1 0 0).trans rfl, (h.1 1 0).trans rfl, (h.2 2 (by decide)).trans rfl⟩

/-- Without the proviso: a copy outlives its renderer, and writes to what has taken the place
of the buffer. -/
example : ∃ w, (ResourceSystem.machine .ogl).run .empty
      [.construct 0 ⟨.buffer, .dynamicFixed, [1, 2]⟩, .createRenderer 0 [0] [1] [7],
        .copy 2 1, .destroyRenderer 0, .createRenderer 1 [0] [3] [7], .write 2 0 [9]] = some w ∧
    w.shaderBytes .ogl 1 0 = some [some 9, some 2] :=
  ⟨_, rfl, rfl⟩

end Topaz
