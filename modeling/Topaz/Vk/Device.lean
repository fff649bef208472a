import Topaz.Machine
import Mathlib.Data.List.Perm.Basic

/-!
# Topaz.Vk.Device

Resize notifications of a Vulkan device.

`create_renderer` puts a callback slot in a deque of the device, and the renderer's
constructor fills it with a closure over its own address.  Nothing takes a callback out
again when its renderer is destroyed: from then on the deque is longer than the list of
renderers (`Dangling`), and a resize calls through an address where there is no renderer
any more, or a different one.
-/

namespace Topaz
namespace Vk

/-- A renderer: which one it is, and where it lives.  Addresses may be used again. -/
structure PlacedRenderer where
  id : Nat
  address : Nat
deriving DecidableEq, Repr

/-- A device with the renderers that are alive.  A callback is the address its closure
has captured, `none` for `nullptr`. -/
structure Device where
  headless : Bool
  rendererResizeCallbacks : List (Option Nat)
  live : List PlacedRenderer
  nextId : Nat
deriving DecidableEq, Repr

/-- What happens during a resize.  `handleResize` is the resize action of the renderer
that lives at the captured address, if any does. -/
inductive ResizeAction where
  | recreateSwapchain
  | handleResize (renderer : Option Nat)
deriving DecidableEq, Repr

inductive DeviceEvent where
  /-- `create_renderer`; the new renderer is placed at `address` -/
  | createRenderer (address : Nat)
  | destroyRenderer (id : Nat)
  | windowResize
deriving DecidableEq, Repr

namespace Device

def create (headless : Bool) : Device := ⟨headless, [], [], 0⟩

/-- `renderer_resize_callbacks.emplace_back(nullptr)`. -/
def emplaceCallback (d : Device) : Device :=
  { d with rendererResizeCallbacks := d.rendererResizeCallbacks ++ [none] }

/-- The constructor of the renderer assigns the callback it was given, the last one. -/
def constructRenderer (d : Device) (address : Nat) : Device :=
  { d with
    rendererResizeCallbacks := d.rendererResizeCallbacks.dropLast ++ [some address]
    live := d.live ++ [⟨d.nextId, address⟩]
    nextId := d.nextId + 1 }

def createRenderer (d : Device) (address : Nat) : Device :=
  d.emplaceCallback.constructRenderer address

/-- No destructor of a renderer knows about the device. -/
def destroyRenderer (d : Device) (id : Nat) : Device :=
  { d with live := d.live.filter fun renderer => renderer.id ≠ id }

/-- The renderer at an address. -/
def rendererAt (d : Device) (address : Nat) : Option Nat :=
  (d.live.find? fun renderer => renderer.address = address).map PlacedRenderer.id

/-- What `on_window_resize` does, in order. -/
def onWindowResize (d : Device) : List ResizeAction :=
  (if d.headless then [] else [.recreateSwapchain]) ++
    d.rendererResizeCallbacks.filterMap fun callback =>
      callback.map fun address => .handleResize (d.rendererAt address)

/-- A renderer is placed where none lives, only live ones are destroyed, and only the
device of a window hears of resizes. -/
def Enabled (d : Device) : DeviceEvent → Prop
  | .createRenderer address => ∀ renderer ∈ d.live, renderer.address ≠ address
  | .destroyRenderer id => ∃ renderer ∈ d.live, renderer.id = id
  | .windowResize => d.headless = false

instance : ∀ (d : Device) (e : DeviceEvent), Decidable (d.Enabled e)
  | d, .createRenderer address =>
      inferInstanceAs (Decidable (∀ renderer ∈ d.live, renderer.address ≠ address))
  | d, .destroyRenderer id =>
      inferInstanceAs (Decidable (∃ renderer ∈ d.live, renderer.id = id))
  | d, .windowResize => inferInstanceAs (Decidable (d.headless = false))

def next (d : Device) : DeviceEvent → Device
  | .createRenderer address => d.createRenderer address
  | .destroyRenderer id => d.destroyRenderer id
  | .windowResize => d

def machine : Machine Device DeviceEvent := ⟨Enabled, next⟩

instance (d : Device) (e : DeviceEvent) : Decidable (machine.Enabled d e) :=
  inferInstanceAs (Decidable (d.Enabled e))

end Device

/-- A resize recreates the swapchain and then runs the action of every live renderer
once, and no other. -/
def NotifiesLive (d : Device) : Prop :=
  ∃ renderers : List (Option Nat),
    d.onWindowResize = .recreateSwapchain :: renderers.map .handleResize ∧
    renderers.Perm (d.live.map fun renderer => some renderer.id)

/-- Every resize of a run does. -/
def NotifiesLiveRun : Device → List DeviceEvent → Prop
  | _, [] => True
  | d, e :: es => (e = .windowResize → NotifiesLive d) ∧ NotifiesLiveRun (d.next e) es

/-- No renderer is destroyed before a resize. -/
def NoResizeAfterDestroy (events : List DeviceEvent) : Prop :=
  events.Pairwise fun x y => ∀ id, x = .destroyRenderer id → y ≠ .windowResize

/-! ## what events do -/

namespace Device

variable (d : Device)

theorem createRenderer_eq (address : Nat) : d.createRenderer address =
    { d with
      rendererResizeCallbacks := d.rendererResizeCallbacks ++ [some address]
      live := d.live ++ [⟨d.nextId, address⟩]
      nextId := d.nextId + 1 } := by
  simp [createRenderer, emplaceCallback, constructRenderer]

/-- Destroying a renderer leaves one renderer less, at least. -/
theorem length_live_destroyRenderer {id : Nat} (h : d.Enabled (.destroyRenderer id)) :
    (d.destroyRenderer id).live.length < d.live.length := by
  obtain ⟨renderer, hmem, hid⟩ := h
  exact List.length_filter_lt_length_iff_exists.mpr ⟨renderer, hmem, by simp [hid]⟩

/-- Every callback that is set leads to one action. -/
theorem onWindowResize_eq (addresses : List Nat)
    (h : d.rendererResizeCallbacks = addresses.map some) (hwindow : d.headless = false) :
    d.onWindowResize =
      .recreateSwapchain :: (addresses.map d.rendererAt).map .handleResize := by
  rw [onWindowResize, h, hwindow, List.filterMap_map, List.map_map]
  simp [Function.comp_def]

end Device

/-! ## clean and dangling devices -/

/-- The callbacks are those of the live renderers. -/
structure Clean (d : Device) : Prop where
  callbacks : d.rendererResizeCallbacks = d.live.map fun renderer => some renderer.address
  distinct : (d.live.map PlacedRenderer.address).Nodup

/-- There are more callbacks than renderers. -/
def Dangling (d : Device) : Prop :=
  ∃ addresses : List Nat, d.rendererResizeCallbacks = addresses.map some ∧
    d.live.length < addresses.length

theorem find?_address {live : List PlacedRenderer} (h : (live.map PlacedRenderer.address).Nodup)
    {renderer : PlacedRenderer} (hmem : renderer ∈ live) :
    live.find? (fun other => other.address = renderer.address) = some renderer := by
  induction live with
  | nil => contradiction
  | cons first live ih =>
      obtain ⟨hfirst, hrest⟩ := List.nodup_cons.mp h
      cases List.mem_cons.mp hmem with
      | inl heq => simp [heq]
      | inr hin =>
          have hne : first.address ≠ renderer.address := fun heq =>
            hfirst (heq ▸ List.mem_map_of_mem hin)
          rw [List.find?_cons_of_neg (by simpa using hne), ih hrest hin]

namespace Clean

variable {d : Device}

theorem create (headless : Bool) : Clean (.create headless) := ⟨rfl, List.nodup_nil⟩

theorem createRenderer (h : Clean d) {address : Nat} (he : d.Enabled (.createRenderer address)) :
    Clean (d.createRenderer address) := by
  rw [d.createRenderer_eq]
  constructor
  · simp [h.callbacks]
  · have hdistinct := h.distinct
    rw [List.map_append, List.nodup_append]
    grind [Device.Enabled]

theorem destroyRenderer (h : Clean d) {id : Nat} (he : d.Enabled (.destroyRenderer id)) :
    Dangling (d.destroyRenderer id) := by
  refine ⟨d.live.map PlacedRenderer.address, ?_, ?_⟩
  · rw [List.map_map]
    exact h.callbacks
  · rw [List.length_map]
    exact d.length_live_destroyRenderer he

/-- Each callback finds the renderer it was made for. -/
theorem rendererAt (h : Clean d) {renderer : PlacedRenderer} (hmem : renderer ∈ d.live) :
    d.rendererAt renderer.address = some renderer.id := by
  rw [Device.rendererAt, find?_address h.distinct hmem, Option.map_some]

theorem notifiesLive (h : Clean d) (hwindow : d.headless = false) : NotifiesLive d := by
  refine ⟨(d.live.map PlacedRenderer.address).map d.rendererAt, ?_, ?_⟩
  · exact d.onWindowResize_eq _ (by rw [h.callbacks, List.map_map]; rfl) hwindow
  · rw [List.map_map]
    refine List.Perm.of_eq (List.map_congr_left fun renderer hmem => ?_)
    exact h.rendererAt hmem

end Clean

namespace Dangling

variable {d : Device}

theorem createRenderer (h : Dangling d) (address : Nat) : Dangling (d.createRenderer address) := by
  obtain ⟨addresses, hcallbacks, hmore⟩ := h
  rw [d.createRenderer_eq]
  refine ⟨addresses ++ [address], by simp [hcallbacks], ?_⟩
  simp only [List.length_append, List.length_singleton]
  omega

theorem destroyRenderer (h : Dangling d) {id : Nat} (he : d.Enabled (.destroyRenderer id)) :
    Dangling (d.destroyRenderer id) := by
  obtain ⟨addresses, hcallbacks, hmore⟩ := h
  exact ⟨addresses, hcallbacks, Nat.lt_trans (d.length_live_destroyRenderer he) hmore⟩

/-- A resize runs more actions than there are renderers. -/
theorem not_notifiesLive (h : Dangling d) (hwindow : d.headless = false) : ¬ NotifiesLive d := by
  intro hnotifies
  obtain ⟨addresses, hcallbacks, hmore⟩ := h
  obtain ⟨renderers, hactions, hperm⟩ := hnotifies
  have hlen := congrArg List.length hactions
  rw [d.onWindowResize_eq addresses hcallbacks hwindow] at hlen
  have hlive := hperm.length_eq
  simp only [List.length_cons, List.length_map] at hlen hlive
  omega

/-- **Run of a dangling device**: it cannot be resized any more. -/
theorem notifiesLiveRun_iff (h : Dangling d) {events : List DeviceEvent} {t : Device}
    (hrun : Device.machine.run d events = some t) :
    NotifiesLiveRun d events ↔ .windowResize ∉ events := by
  induction events generalizing d with
  | nil => simp [NotifiesLiveRun]
  | cons e es ih =>
      obtain ⟨he, hrest⟩ := Device.machine.run_cons.mp hrun
      cases e with
      | createRenderer address =>
          have hiff := ih (h.createRenderer address) hrest
          simp [NotifiesLiveRun, Device.next, hiff]
      | destroyRenderer id =>
          have hiff := ih (h.destroyRenderer he) hrest
          simp [NotifiesLiveRun, Device.next, hiff]
      | windowResize => simp [NotifiesLiveRun, h.not_notifiesLive he]

end Dangling

/-- **Run of a clean device**: resizes are fine until a renderer is destroyed. -/
theorem Clean.notifiesLiveRun_iff {d t : Device} (h : Clean d) {events : List DeviceEvent}
    (hrun : Device.machine.run d events = some t) :
    NotifiesLiveRun d events ↔ NoResizeAfterDestroy events := by
  induction events generalizing d with
  | nil => simp [NotifiesLiveRun, NoResizeAfterDestroy]
  | cons e es ih =>
      obtain ⟨he, hrest⟩ := Device.machine.run_cons.mp hrun
      rw [NoResizeAfterDestroy, List.pairwise_cons, ← NoResizeAfterDestroy]
      cases e with
      | createRenderer address =>
          have hiff := ih (h.createRenderer he) hrest
          simp [NotifiesLiveRun, Device.next, hiff]
      | windowResize =>
          have hiff := ih h hrest
          simp [NotifiesLiveRun, Device.next, h.notifiesLive he, hiff]
      | destroyRenderer id =>
          have hiff := (h.destroyRenderer he).notifiesLiveRun_iff hrest
          have hnone : .windowResize ∉ es → NoResizeAfterDestroy es := fun hnot =>
            List.pairwise_of_forall_mem_list fun _ _ y hy _ _ heq => hnot (heq ▸ hy)
          simp only [NotifiesLiveRun, Device.next, hiff]
          grind

/-- **Resize notifications**: every resize recreates the swapchain and runs the action of
every live renderer once, and of no other, exactly when no resize comes after the
destruction of a renderer. -/
theorem resizes_notify_live_iff (events : List DeviceEvent) (t : Device)
    (hrun : Device.machine.run (.create false) events = some t) :
    NotifiesLiveRun (.create false) events ↔ NoResizeAfterDestroy events :=
  (Clean.create false).notifiesLiveRun_iff hrun

/-- Two renderers, resized before one of them is destroyed. -/
theorem resizes_notify_live_two :
    NotifiesLiveRun (.create false)
      [.createRenderer 8, .createRenderer 16, .windowResize, .destroyRenderer 0] :=
  (resizes_notify_live_iff _ _ rfl).mpr (by simp [NoResizeAfterDestroy])

/-- Resizing the window after a renderer is gone calls into it. -/
theorem resize_calls_destroyed_renderer :
    ∃ t, Device.machine.run (.create false)
        [.createRenderer 8, .destroyRenderer 0, .windowResize] = some t ∧
      t.onWindowResize = [.recreateSwapchain, .handleResize none] ∧
      ¬ NotifiesLiveRun (.create false)
        [.createRenderer 8, .destroyRenderer 0, .windowResize] := by
  refine ⟨_, rfl, rfl, fun h => ?_⟩
  obtain ⟨renderers, hactions, hperm⟩ := h.2.2.1 rfl
  have hnil : renderers = [] := List.perm_nil.mp hperm
  rw [hnil] at hactions
  exact absurd hactions (by decide)

end Vk
end Topaz
