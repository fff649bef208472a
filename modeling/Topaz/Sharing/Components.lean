import Topaz.Sharing.System

/-!
# Topaz.Sharing.Components

What the constructor of a renderer does with its resources.

* `ResourceSystem.setUp_setupComponents` — in both backends, every component ends up with a
  buffer that holds the data of its clone, and nothing else changes;
* `Creatable.created` — the same of the resources that were added, seen from outside.
-/

namespace Topaz

/-! ## setting components up -/

namespace ResourceObject

/-- The object after `set_resource_data`, if its class has that. -/
def attach (b : NativeBuffer) (x : ResourceObject) : ResourceObject :=
  match x.dataAccess with
  | .staticFixed => x
  | .dynamicFixed => { x with resourceData := some b }

/-- Static resources have no `set_resource_data`. -/
theorem attach_static {x : ResourceObject} (h : x.dataAccess = .staticFixed) (b : NativeBuffer) :
    x.attach b = x := by
  simp [attach, h]

/-- Dynamic resources point to their buffer from then on. -/
theorem attach_dynamic {x : ResourceObject} (h : x.dataAccess = .dynamicFixed)
    (b : NativeBuffer) : x.attach b = { x with resourceData := some b } := by
  simp [attach, h]

end ResourceObject

namespace ResourceSystem

variable {w : ResourceSystem} {backend : Backend} {o : ResourceAddress} {b : NativeBuffer}
  {x : ResourceObject}

/-- The data of an object only depends on the memory it points to. -/
theorem getResourceBytes_congr {w' : ResourceSystem}
    (h : ∀ b, x.resourceData = some b → w'.memory b = w.memory b) :
    w'.getResourceBytes x = w.getResourceBytes x := by
  unfold getResourceBytes
  cases hb : x.resourceData with
  | none => rfl
  | some b => exact congrArg (Option.map _) (h b hb)

/-- What `setup_buffers` and its counterpart leave in the buffer of a component. -/
def setupContents (w : ResourceSystem) (backend : Backend) (x : ResourceObject) : Buffer UInt8 :=
  match x.dataAccess with
  | .staticFixed => w.initialContents backend x
  | .dynamicFixed => ⟨(w.getResourceBytes x).getD []⟩

/-- A buffer is created as large as the data of its resource, in either backend. -/
theorem size_initialContents (w : ResourceSystem) (backend : Backend) (x : ResourceObject) :
    (w.initialContents backend x).size = ((w.getResourceBytes x).getD []).length := by
  cases backend with
  | ogl => rfl
  | vulkan => exact Buffer.size_create _

/-- Only the object of the component is told. -/
theorem objects_setupBuffer (hx : w.objects o = some x) :
    (w.setupBuffer backend o b).objects = Function.update w.objects o (some (x.attach b)) := by
  cases ha : x.dataAccess with
  | staticFixed =>
      rw [ResourceObject.attach_static ha, ← hx, Function.update_eq_self]
      simp [setupBuffer, hx, ha, allocate]
  | dynamicFixed =>
      rw [ResourceObject.attach_dynamic ha]
      simp [setupBuffer, hx, ha, allocate, setResourceData]

/-- Only the new buffer is written.  The object must not point to it already, since its data is
read after the buffer has been created. -/
theorem memory_setupBuffer (hx : w.objects o = some x) (hb : x.resourceData ≠ some b) :
    (w.setupBuffer backend o b).memory =
      Function.update w.memory b (some (w.setupContents backend x)) := by
  cases ha : x.dataAccess with
  | staticFixed => simp [setupBuffer, hx, ha, allocate, setupContents]
  | dynamicFixed =>
      -- the bytes are still where they were before the buffer was created
      have hbytes : (w.allocate b (w.initialContents backend x)).getResourceBytes x =
          w.getResourceBytes x := by
        refine getResourceBytes_congr fun b' hb' => Function.update_of_ne ?_ ..
        rintro rfl
        exact hb hb'
      have hobjects : (w.allocate b (w.initialContents backend x)).objects o = some x := hx
      simp only [setupBuffer, hx, ha, setResourceData, hobjects, hbytes, setupContents, writeMemory]
      simp only [allocate, Function.update_self, Function.update_idem, Option.map_some]
      rw [Buffer.memcpy_all _ (w.size_initialContents backend x).symm]

theorem renderers_setResourceData (w : ResourceSystem) (o : ResourceAddress)
    (b : NativeBuffer) : (w.setResourceData o b).renderers = w.renderers := by
  unfold setResourceData
  split <;> rfl

theorem renderers_setupBuffer (w : ResourceSystem) (backend : Backend) (o : ResourceAddress)
    (b : NativeBuffer) : (w.setupBuffer backend o b).renderers = w.renderers := by
  unfold setupBuffer
  split
  · rfl
  · split
    · rfl
    · exact renderers_setResourceData ..

/-- Clones with buffers that none of them points to. -/
structure Apart (w : ResourceSystem) (ps : List (ResourceAddress × NativeBuffer)) : Prop where
  objects : (ps.map Prod.fst).Nodup
  natives : (ps.map Prod.snd).Nodup
  live : ∀ p ∈ ps, ∃ x, w.objects p.1 = some x
  apart : ∀ p ∈ ps, ∀ x, w.objects p.1 = some x → ∀ q ∈ ps, x.resourceData ≠ some q.2

/-- Every component has been given its buffer, with `contents`, and nothing else has changed. -/
structure SetUp (ps : List (ResourceAddress × NativeBuffer))
    (contents : ResourceObject → Buffer UInt8) (w w' : ResourceSystem) : Prop where
  renderers : w'.renderers = w.renderers
  objects_other : ∀ o, o ∉ ps.map Prod.fst → w'.objects o = w.objects o
  memory_other : ∀ b, b ∉ ps.map Prod.snd → w'.memory b = w.memory b
  objects : ∀ p ∈ ps, ∀ x, w.objects p.1 = some x → w'.objects p.1 = some (x.attach p.2)
  memory : ∀ p ∈ ps, ∀ x, w.objects p.1 = some x → w'.memory p.2 = some (contents x)

/-- The loop over the components: by induction, since each step leaves the others as they were. -/
theorem setUp_setupBuffer {ps : List (ResourceAddress × NativeBuffer)} (h : w.Apart ps) :
    SetUp ps (w.setupContents backend) w
      (ps.foldl (fun w c => w.setupBuffer backend c.1 c.2) w) := by
  induction ps generalizing w with
  | nil => exact ⟨rfl, fun _ _ => rfl, fun _ _ => rfl, by simp, by simp⟩
  | cons p ps ih =>
      obtain ⟨x, hx⟩ := h.live p List.mem_cons_self
      have happart := h.apart p List.mem_cons_self x hx
      obtain ⟨hnoto, hobjects⟩ := List.nodup_cons.mp h.objects
      obtain ⟨hnotb, hnatives⟩ := List.nodup_cons.mp h.natives
      have ho : ∀ o, o ≠ p.1 → (w.setupBuffer backend p.1 p.2).objects o = w.objects o :=
        fun o hne => by rw [objects_setupBuffer hx, Function.update_of_ne hne]
      have hm : ∀ b, b ≠ p.2 → (w.setupBuffer backend p.1 p.2).memory b = w.memory b :=
        fun b hne => by
          rw [memory_setupBuffer hx (happart p List.mem_cons_self), Function.update_of_ne hne]
      -- the other components are as they were
      have hrest : ∀ q ∈ ps, (w.setupBuffer backend p.1 p.2).objects q.1 = w.objects q.1 :=
        fun q hq => ho q.1 fun heq => hnoto (heq ▸ List.mem_map_of_mem hq)
      have hset := @ih (w.setupBuffer backend p.1 p.2)
        { objects := hobjects
          natives := hnatives
          live := fun q hq => by
            rw [hrest q hq]
            exact h.live q (List.mem_cons_of_mem p hq)
          apart := fun q hq y hy q' hq' => by
            rw [hrest q hq] at hy
            exact h.apart q (List.mem_cons_of_mem p hq) y hy q' (List.mem_cons_of_mem p hq') }
      refine ⟨hset.renderers.trans (w.renderers_setupBuffer ..), fun o hnot => ?_, fun b hnot => ?_,
        fun q hq y hy => ?_, fun q hq y hy => ?_⟩
      · rw [List.map_cons, List.mem_cons, not_or] at hnot
        exact (hset.objects_other o hnot.2).trans (ho o hnot.1)
      · rw [List.map_cons, List.mem_cons, not_or] at hnot
        exact (hset.memory_other b hnot.2).trans (hm b hnot.1)
      · obtain rfl | hq := List.mem_cons.mp hq
        · obtain rfl : x = y := Option.some.inj (hx.symm.trans hy)
          refine (hset.objects_other q.1 hnoto).trans ?_
          rw [objects_setupBuffer hx, Function.update_self]
        · exact hset.objects q hq y ((hrest q hq).trans hy)
      · obtain rfl | hmem := List.mem_cons.mp hq
        · obtain rfl : x = y := Option.some.inj (hx.symm.trans hy)
          refine (hset.memory_other q.2 hnotb).trans ?_
          rw [memory_setupBuffer hx (happart q List.mem_cons_self), Function.update_self]
        · refine (hset.memory q hmem y ((hrest q hmem).trans hy)).trans ?_
          have hbytes : (w.setupBuffer backend p.1 p.2).getResourceBytes y =
              w.getResourceBytes y := by
            refine getResourceBytes_congr fun b hb => hm b ?_
            rintro rfl
            exact h.apart q hq y hy p List.mem_cons_self hb
          simp only [setupContents, initialContents, hbytes]

/-- An upload writes memory only. -/
theorem objects_uploadStatic (w : ResourceSystem) (o : ResourceAddress) (b : NativeBuffer) :
    (w.uploadStatic o b).objects = w.objects ∧ (w.uploadStatic o b).renderers = w.renderers := by
  unfold uploadStatic
  split
  · exact ⟨rfl, rfl⟩
  · split <;> exact ⟨rfl, rfl⟩

/-- An upload writes one buffer only. -/
theorem memory_uploadStatic_of_ne (w : ResourceSystem) (o : ResourceAddress)
    {b b' : NativeBuffer} (h : b' ≠ b) : (w.uploadStatic o b).memory b' = w.memory b' := by
  unfold uploadStatic
  split
  · rfl
  · split
    · exact Function.update_of_ne h ..
    · rfl

/-- An upload fills the buffer of a static resource with its data. -/
theorem memory_uploadStatic_static (hx : w.objects o = some x)
    (ha : x.dataAccess = .staticFixed) (hdata : x.resourceData = none) {buffer : Buffer UInt8}
    (hbuffer : w.memory b = some buffer) (hsize : buffer.size = x.initialData.length) :
    (w.uploadStatic o b).memory b = some ⟨x.initialData.map some⟩ := by
  simp only [uploadStatic, hx, ha, writeMemory, getResourceBytes, hdata, Function.update_self,
    hbuffer, Option.map_some, Option.getD_some]
  rw [Buffer.memcpy_all _ (by rw [List.length_map, hsize])]

/-- Dynamic resources are not uploaded. -/
theorem memory_uploadStatic_dynamic (hx : w.objects o = some x)
    (ha : x.dataAccess = .dynamicFixed) : w.uploadStatic o b = w := by
  simp [uploadStatic, hx, ha]

/-- Static objects have no pointer. -/
def StaticOwn (w : ResourceSystem) : Prop :=
  ∀ o x, w.objects o = some x → x.dataAccess = .staticFixed → x.resourceData = none

/-- An upload depends on its own object and buffer only. -/
theorem memory_uploadStatic_congr {w' : ResourceSystem} (hstatic : w.StaticOwn)
    (hobjects : w'.objects = w.objects) (hmemory : w'.memory b = w.memory b) :
    (w'.uploadStatic o b).memory b = (w.uploadStatic o b).memory b := by
  unfold uploadStatic
  rw [hobjects]
  cases hx : w.objects o with
  | none => exact hmemory
  | some x =>
      cases ha : x.dataAccess with
      | dynamicFixed => simpa [ha] using hmemory
      | staticFixed =>
          have hbytes : w'.getResourceBytes x = w.getResourceBytes x :=
            getResourceBytes_congr fun b' hb' => by simp [hstatic o x hx ha] at hb'
          simp [ha, writeMemory, hmemory, hbytes]

/-- The uploads of a renderer leave all else alone. -/
theorem foldl_uploadStatic {ps : List (ResourceAddress × NativeBuffer)}
    (hnatives : (ps.map Prod.snd).Nodup) (hstatic : w.StaticOwn) {w' : ResourceSystem}
    (hw' : ps.foldl (fun w c => w.uploadStatic c.1 c.2) w = w') :
    w'.objects = w.objects ∧ w'.renderers = w.renderers ∧
      (∀ b, b ∉ ps.map Prod.snd → w'.memory b = w.memory b) ∧
      ∀ p ∈ ps, w'.memory p.2 = (w.uploadStatic p.1 p.2).memory p.2 := by
  induction ps generalizing w with
  | nil =>
      subst hw'
      exact ⟨rfl, rfl, fun _ _ => rfl, by simp⟩
  | cons p ps ih =>
      obtain ⟨hnot, hnatives⟩ := List.nodup_cons.mp hnatives
      obtain ⟨hobjects, hrenderers⟩ := w.objects_uploadStatic p.1 p.2
      have hstatic' : (w.uploadStatic p.1 p.2).StaticOwn := by
        unfold StaticOwn
        rwa [hobjects]
      obtain ⟨ho, hr, hother, hmem⟩ := ih hnatives hstatic' hw'
      refine ⟨ho.trans hobjects, hr.trans hrenderers, fun b hb => ?_, fun q hq => ?_⟩
      · rw [List.map_cons, List.mem_cons, not_or] at hb
        exact (hother b hb.2).trans (w.memory_uploadStatic_of_ne p.1 hb.1)
      · obtain rfl | hq := List.mem_cons.mp hq
        · exact hother q.2 hnot
        · refine (hmem q hq).trans (memory_uploadStatic_congr hstatic hobjects ?_)
          refine w.memory_uploadStatic_of_ne p.1 fun heq => hnot ?_
          exact heq ▸ List.mem_map_of_mem hq

/-- An object without a pointer has the data it was made with. -/
theorem getResourceBytes_of_none (hx : x.resourceData = none) :
    w.getResourceBytes x = some (x.initialData.map some) := by
  simp [getResourceBytes, hx]

/-- **Components**: in both backends every component ends up with the data of its clone. -/
theorem setUp_setupComponents (backend : Backend)
    {ps : List (ResourceAddress × NativeBuffer)} (h : w.Apart ps) (hstatic : w.StaticOwn) :
    SetUp ps (fun x => ⟨(w.getResourceBytes x).getD []⟩) w (w.setupComponents backend ps) := by
  have hset : SetUp ps (w.setupContents backend) w
      (ps.foldl (fun w c => w.setupBuffer backend c.1 c.2) w) := setUp_setupBuffer h
  cases backend with
  | ogl =>
      refine { hset with memory := fun p hp x hx => (hset.memory p hp x hx).trans ?_ }
      rw [setupContents, initialContents]
      cases x.dataAccess <;> rfl
  | vulkan =>
      rw [setupComponents]
      generalize ps.foldl (fun w c => w.setupBuffer .vulkan c.1 c.2) w = v at hset ⊢
      -- handing out buffers does not give static objects pointers
      have hobjects : ∀ p ∈ ps, ∀ x, w.objects p.1 = some x → v.objects p.1 = some (x.attach p.2) :=
        hset.objects
      have hown : v.StaticOwn := by
        intro o x hx ha
        by_cases ho : o ∈ ps.map Prod.fst
        · obtain ⟨p, hp, rfl⟩ := List.mem_map.mp ho
          obtain ⟨y, hy⟩ := h.live p hp
          obtain rfl : y.attach p.2 = x := Option.some.inj ((hobjects p hp y hy).symm.trans hx)
          cases hay : y.dataAccess with
          | staticFixed =>
              rw [ResourceObject.attach_static hay]
              exact hstatic p.1 y hy hay
          | dynamicFixed =>
              rw [ResourceObject.attach_dynamic hay] at ha
              simp [hay] at ha
        · exact hstatic o x ((hset.objects_other o ho).symm.trans hx) ha
      obtain ⟨ho, hr, hother, hmem⟩ := foldl_uploadStatic h.natives hown rfl
      refine ⟨hr.trans hset.renderers, fun o hnot => ?_, fun b hnot => ?_, fun p hp x hx => ?_,
        fun p hp x hx => (hmem p hp).trans ?_⟩
      · rw [ho, hset.objects_other o hnot]
      · rw [hother b hnot, hset.memory_other b hnot]
      · rw [ho, hobjects p hp x hx]
      · have hv := hobjects p hp x hx
        have hbuffer := hset.memory p hp x hx
        cases ha : x.dataAccess with
        | dynamicFixed =>
            have hdynamic : (x.attach p.2).dataAccess = .dynamicFixed := by
              rw [ResourceObject.attach_dynamic ha, ha]
            rw [memory_uploadStatic_dynamic hv hdynamic, hbuffer, setupContents, ha]
        | staticFixed =>
            have hdata := hstatic p.1 x hx ha
            rw [ResourceObject.attach_static ha] at hv
            rw [getResourceBytes_of_none hdata, Option.getD_some]
            refine memory_uploadStatic_static hv ha hdata hbuffer ?_
            rw [setupContents, ha, size_initialContents, getResourceBytes_of_none hdata,
              Option.getD_some, List.length_map]

end ResourceSystem

/-! ## clones -/

/-- Every resource is cloned once. -/
theorem length_cloneOrder {types : ResourceAddress → Option ResourceType}
    {added : List ResourceAddress} (h : ∀ o ∈ added, types o ≠ none) :
    (cloneOrder types added).length = added.length := by
  induction added with
  | nil => rfl
  | cons o added ih =>
      have hrest := ih fun o' ho' => h o' (List.mem_cons_of_mem o ho')
      unfold cloneOrder addressesOf at hrest ⊢
      rw [List.length_append] at hrest ⊢
      cases htype : types o with
      | none => exact absurd htype (h o List.mem_cons_self)
      | some t => cases t <;> simp [htype] <;> omega

/-- Nothing is cloned that was not added. -/
theorem mem_of_mem_cloneOrder {types : ResourceAddress → Option ResourceType}
    {added : List ResourceAddress} {o : ResourceAddress} (h : o ∈ cloneOrder types added) :
    o ∈ added := by
  obtain h | h := List.mem_append.mp h
  · exact (List.mem_filter.mp h).1
  · exact (List.mem_filter.mp h).1

/-- The buffers come first. -/
theorem lt_of_cloneOrder_buffer {types : ResourceAddress → Option ResourceType}
    {added : List ResourceAddress} {o : ResourceAddress} {j : Nat}
    (hj : (cloneOrder types added)[j]? = some o) (htype : types o = some .buffer) :
    j < (addressesOf types .buffer added).length := by
  by_contra hge
  rw [cloneOrder, List.getElem?_append_right (Nat.le_of_not_lt hge)] at hj
  have htexture := of_decide_eq_true (List.mem_filter.mp (List.mem_of_getElem? hj)).2
  rw [htype] at htexture
  cases htexture

/-- The builder counts as many resources of a type as there are objects of it. -/
theorem length_resourcesOf_objects (w : ResourceSystem) (t : ResourceType)
    (added : List ResourceAddress) :
    (resourcesOf t (added.filterMap fun o => (w.objects o).map ResourceObject.resource)).length =
      (addressesOf w.typeOf t added).length := by
  unfold resourcesOf addressesOf
  induction added with
  | nil => rfl
  | cons o added ih =>
      cases hx : w.objects o with
      | none => simpa [ResourceSystem.typeOf, hx] using ih
      | some x =>
          by_cases htype : x.type = t
          · simpa [ResourceSystem.typeOf, hx, ResourceObject.resource, htype] using ih
          · simpa [ResourceSystem.typeOf, hx, ResourceObject.resource, htype] using ih

/-- The sources of a new renderer are there, and point to none of the buffers it is going to
have. -/
structure Creatable (sources clones : List ResourceAddress) (natives : List NativeBuffer)
    (w : ResourceSystem) : Prop where
  clones_nodup : clones.Nodup
  natives_nodup : natives.Nodup
  length : sources.length = clones.length
  natives_le : natives.length ≤ clones.length
  live : ∀ o ∈ sources, ∃ x, w.objects o = some x
  apart : ∀ o ∈ sources, ∀ x, w.objects o = some x → ∀ b ∈ natives, x.resourceData ≠ some b
  static : w.StaticOwn

namespace Creatable

variable {w : ResourceSystem} {sources clones : List ResourceAddress}
  {natives : List NativeBuffer}

/-- A clone is a copy of the resource at its position. -/
theorem objects_cloneAll (h : Creatable sources clones natives w) {j : Nat}
    {c o : ResourceAddress} (hc : clones[j]? = some c) (ho : sources[j]? = some o) :
    (w.cloneAll sources clones).objects c = w.objects o :=
  place_getElem h.clones_nodup hc (by rw [List.getElem?_map, ho, Option.map_some])

/-- Every clone has a source. -/
theorem source (h : Creatable sources clones natives w) {j : Nat} {c : ResourceAddress}
    (hc : clones[j]? = some c) : ∃ o ∈ sources, sources[j]? = some o ∧
      ∃ x, w.objects o = some x ∧ (w.cloneAll sources clones).objects c = some x := by
  have hj : j < sources.length := h.length ▸ (List.getElem?_eq_some_iff.mp hc).1
  have ho := List.getElem?_eq_getElem hj
  have hmem := List.getElem_mem hj
  obtain ⟨x, hx⟩ := h.live _ hmem
  exact ⟨_, hmem, ho, x, hx, (h.objects_cloneAll hc ho).trans hx⟩

theorem map_fst : ((clones.take natives.length).zip natives).map Prod.fst =
    clones.take natives.length :=
  List.map_fst_zip (List.length_take_le ..)

theorem map_snd (h : Creatable sources clones natives w) :
    ((clones.take natives.length).zip natives).map Prod.snd = natives :=
  List.map_snd_zip (by rw [List.length_take, Nat.min_eq_left h.natives_le])

/-- A component is a clone and a buffer at the same position. -/
theorem mem_components {p : ResourceAddress × NativeBuffer} :
    p ∈ (clones.take natives.length).zip natives ↔
      ∃ j : Nat, clones[j]? = some p.1 ∧ natives[j]? = some p.2 := by
  have htake : ∀ j : Nat, natives[j]? = some p.2 → (clones.take natives.length)[j]? = clones[j]? :=
    fun j hb => List.getElem?_take_of_lt (List.getElem?_eq_some_iff.mp hb).1
  rw [List.mem_iff_getElem?]
  refine exists_congr fun j => List.getElem?_zip_eq_some.trans (and_congr_left fun hb => ?_)
  rw [htake j hb]

/-- Clones point to what their sources point to, so to none of the new buffers. -/
theorem apart_cloneAll (h : Creatable sources clones natives w) :
    (w.cloneAll sources clones).Apart ((clones.take natives.length).zip natives) where
  objects := by
    rw [map_fst]
    exact h.clones_nodup.sublist (List.take_sublist ..)
  natives := h.map_snd.symm ▸ h.natives_nodup
  live p hp := by
    obtain ⟨j, hc, -⟩ := mem_components.mp hp
    obtain ⟨-, -, -, x, -, hx⟩ := h.source hc
    exact ⟨x, hx⟩
  apart p hp x hx q hq := by
    obtain ⟨j, hc, -⟩ := mem_components.mp hp
    obtain ⟨o, ho, -, y, hy, hy'⟩ := h.source hc
    obtain rfl : x = y := Option.some.inj (hx.symm.trans hy')
    obtain ⟨k, -, hb⟩ := mem_components.mp hq
    exact h.apart o ho x hy q.2 (List.mem_of_getElem? hb)

/-- Clones of static resources have no pointer either. -/
theorem staticOwn_cloneAll (h : Creatable sources clones natives w) :
    (w.cloneAll sources clones).StaticOwn := by
  intro c x hx ha
  by_cases hc : c ∈ clones
  · obtain ⟨j, hj⟩ := List.mem_iff_getElem?.mp hc
    obtain ⟨o, -, -, y, hy, hy'⟩ := h.source hj
    obtain rfl : x = y := Option.some.inj (hx.symm.trans hy')
    exact h.static o x hy ha
  · exact h.static c x ((place_of_notMem hc).symm.trans hx) ha

end Creatable

/-- What a new renderer adds: clones of what was added, and buffers with their data. -/
structure Created (sources clones : List ResourceAddress) (natives : List NativeBuffer)
    (w w' : ResourceSystem) : Prop where
  objects_other : ∀ c, c ∉ clones → w'.objects c = w.objects c
  memory_other : ∀ b, b ∉ natives → w'.memory b = w.memory b
  attached : ∀ {j : Nat} {c o : ResourceAddress} {b : NativeBuffer} {x : ResourceObject},
    clones[j]? = some c → sources[j]? = some o → natives[j]? = some b → w.objects o = some x →
    w'.objects c = some (x.attach b) ∧ w'.memory b = some ⟨(w.getResourceBytes x).getD []⟩
  cloned : ∀ {j : Nat} {c o : ResourceAddress}, clones[j]? = some c → sources[j]? = some o →
    natives.length ≤ j → w'.objects c = w.objects o

/-- **Construction**: the clones of a new renderer are copies, and those with components have
buffers that hold the data of the resources that were added. -/
theorem Creatable.created {w : ResourceSystem} {sources clones : List ResourceAddress}
    {natives : List NativeBuffer} (h : Creatable sources clones natives w) (backend : Backend) :
    Created sources clones natives w ((w.cloneAll sources clones).setupComponents backend
      ((clones.take natives.length).zip natives)) := by
  have hset := ResourceSystem.setUp_setupComponents backend h.apart_cloneAll h.staticOwn_cloneAll
  refine ⟨fun c hc => ?_, fun b hb => ?_, fun {j c o b x} hc ho hb hx => ?_,
    fun {j c o} hc ho hj => ?_⟩
  · refine (hset.objects_other c ?_).trans (place_of_notMem hc)
    rw [map_fst]
    exact fun hmem => hc (List.mem_of_mem_take hmem)
  · exact hset.memory_other b (by rwa [h.map_snd])
  · have hp : (c, b) ∈ (clones.take natives.length).zip natives := mem_components.mpr ⟨j, hc, hb⟩
    have hx' := (h.objects_cloneAll hc ho).trans hx
    exact ⟨hset.objects _ hp x hx', hset.memory _ hp x hx'⟩
  · rw [← h.objects_cloneAll hc ho]
    refine hset.objects_other c ?_
    rw [map_fst]
    intro hmem
    obtain ⟨k, hk⟩ := List.mem_iff_getElem?.mp hmem
    have hlt : k < natives.length := by
      have := (List.getElem?_eq_some_iff.mp hk).1
      rw [List.length_take] at this
      omega
    rw [List.getElem?_take_of_lt hlt, ← hc] at hk
    have hkj := (List.getElem?_inj (Nat.lt_of_lt_of_le hlt h.natives_le) h.clones_nodup).mp hk
    omega

end Topaz
