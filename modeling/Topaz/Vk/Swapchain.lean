import Mathlib.Data.Finset.Max
import Topaz.Vk.DeviceFilter

/-!
# Topaz.Vk.Swapchain

How a swapchain is asked for: the number of images, their format and extent, and the
present mode, from what the surface supports and a list of preferences.

Formats and present modes are chosen the same way (`selectFirst`): the preferences are
tried in order, and each looks for a candidate that meets it.  `Honest` is what a single
search has to do, and `selectFirst_honours` and `selectFirst_isSome` what the whole then
does.  A search may reorder the candidates on the way: `FlexibleGoldilocks` sorts them, by
rates that are all equal, and so may settle for a format that is not the closest to the
perfect one (`honours_selectSwapchainFormat_iff`).
-/

namespace Topaz
namespace Vk
namespace Hardware

/-! ## what a surface supports -/

structure Extent2D where
  width : BitVec 32
  height : BitVec 32
deriving DecidableEq, Repr

/-- Every side of an extent is at most that of another. -/
def Extent2D.LE (e f : Extent2D) : Prop := e.width ≤ f.width ∧ e.height ≤ f.height

instance (e f : Extent2D) : Decidable (e.LE f) :=
  inferInstanceAs (Decidable (e.width ≤ f.width ∧ e.height ≤ f.height))

/-- The value of `currentExtent` that leaves the extent to the application. -/
def Extent2D.undefined : Extent2D := ⟨BitVec.allOnes 32, BitVec.allOnes 32⟩

/-- The `VkSurfaceCapabilitiesKHR` that Vulkan allows.  No image count is `0`, as a maximum it
means that there is no limit. -/
structure SurfaceCapabilities where
  minImageCount : BitVec 32
  maxImageCount : BitVec 32
  currentExtent : Extent2D
  minImageExtent : Extent2D
  maxImageExtent : Extent2D
  minImageCount_pos : 0 < minImageCount
  maxImageCount_le : maxImageCount ≠ 0 → minImageCount ≤ maxImageCount
  extent_le : minImageExtent.LE maxImageExtent
  currentExtent_mem : currentExtent = .undefined ∨
    minImageExtent.LE currentExtent ∧ currentExtent.LE maxImageExtent

/-- A `VkSurfaceFormatKHR`, by the numbers of its enumerations. -/
structure SurfaceFormat where
  format : Nat
  colorSpace : Nat
deriving DecidableEq, Repr

inductive PresentMode where
  | immediate
  | mailbox
  | fifo
  | fifoRelaxed
  | sharedDemandRefresh
  | sharedContinuousRefresh
deriving DecidableEq, Repr

/-! ## the first preference that can be met -/

section Preferences

variable {α π : Type}

/-- Try the preferences in order, with the candidates as the last try left them. -/
def selectFirst (select : List α → π → Option α × List α) : List α → List π → Option α
  | _, [] => none
  | candidates, pref :: prefs =>
      match select candidates pref with
      | (some x, _) => some x
      | (none, candidates) => selectFirst select candidates prefs

/-- A search for a preference finds one of the candidates, if any, and at most reorders
them. -/
structure Searches (select : List α → π → Option α × List α) : Prop where
  perm : ∀ candidates pref, (select candidates pref).2.Perm candidates
  mem : ∀ candidates pref x, (select candidates pref).1 = some x → x ∈ candidates

/-- What it finds meets the preference, and it finds something if a candidate does. -/
structure Honest (select : List α → π → Option α × List α) (Meets : List α → π → α → Prop) :
    Prop extends Searches select where
  meets : ∀ candidates pref x, (select candidates pref).1 = some x → Meets candidates pref x
  missed : ∀ candidates pref, (select candidates pref).1 = none →
    ∀ x ∈ candidates, ¬ Meets candidates pref x
  meets_perm : ∀ {xs ys : List α} {pref x}, xs.Perm ys → Meets xs pref x → Meets ys pref x

/-- `x` is a candidate that meets the earliest preference that any candidate meets. -/
def Honours (Meets : List α → π → α → Prop) (candidates : List α) (prefs : List π) (x : α) :
    Prop :=
  ∃ before pref after, prefs = before ++ pref :: after ∧
    (∀ p ∈ before, ∀ y ∈ candidates, ¬ Meets candidates p y) ∧
    x ∈ candidates ∧ Meets candidates pref x

variable {select : List α → π → Option α × List α} {Meets : List α → π → α → Prop}

/-- The first preference is the one that counts, unless no candidate meets it. -/
theorem honours_cons {candidates : List α} {pref : π} {prefs : List π} {x : α} :
    Honours Meets candidates (pref :: prefs) x ↔
      (x ∈ candidates ∧ Meets candidates pref x) ∨
      (∀ y ∈ candidates, ¬ Meets candidates pref y) ∧ Honours Meets candidates prefs x := by
  constructor
  · rintro ⟨before, p, after, hprefs, hbefore, hmem, hmeets⟩
    cases before with
    | nil =>
        obtain ⟨rfl, -⟩ := List.cons.inj hprefs
        exact Or.inl ⟨hmem, hmeets⟩
    | cons q before =>
        obtain ⟨rfl, rfl⟩ := List.cons.inj hprefs
        obtain ⟨hq, hbefore⟩ := List.forall_mem_cons.mp hbefore
        exact Or.inr ⟨hq, before, p, after, rfl, hbefore, hmem, hmeets⟩
  · rintro (⟨hmem, hmeets⟩ | ⟨hq, before, p, after, rfl, hbefore, hmem, hmeets⟩)
    · exact ⟨[], pref, prefs, rfl, by simp, hmem, hmeets⟩
    · exact ⟨pref :: before, p, after, rfl, List.forall_mem_cons.mpr ⟨hq, hbefore⟩, hmem, hmeets⟩

/-- What is selected is a candidate. -/
theorem selectFirst_mem (h : Searches select) {candidates : List α} {prefs : List π} {x : α}
    (hx : selectFirst select candidates prefs = some x) : x ∈ candidates := by
  induction prefs generalizing candidates with
  | nil => contradiction
  | cons pref prefs ih =>
      have hperm := h.perm candidates pref
      have hmem := h.mem candidates pref
      rw [selectFirst] at hx
      rcases hselect : select candidates pref with ⟨_ | y, left⟩
      · simp only [hselect] at hx hperm
        exact hperm.mem_iff.mp (ih hx)
      · simp only [hselect, Option.some.injEq] at hx hmem
        exact hx ▸ hmem y rfl

theorem Honours.perm (h : Honest select Meets) {xs ys : List α} (hperm : xs.Perm ys)
    {prefs : List π} {x : α} (hx : Honours Meets xs prefs x) : Honours Meets ys prefs x := by
  obtain ⟨before, pref, after, hprefs, hbefore, hmem, hmeets⟩ := hx
  refine ⟨before, pref, after, hprefs, ?_, hperm.mem_iff.mp hmem, h.meets_perm hperm hmeets⟩
  intro p hp y hy hmeets
  exact hbefore p hp y (hperm.mem_iff.mpr hy) (h.meets_perm hperm.symm hmeets)

/-- What is selected honours the preferences. -/
theorem selectFirst_honours (h : Honest select Meets) {candidates : List α} {prefs : List π} {x : α}
    (hx : selectFirst select candidates prefs = some x) : Honours Meets candidates prefs x := by
  induction prefs generalizing candidates with
  | nil => contradiction
  | cons pref prefs ih =>
      have hperm := h.perm candidates pref
      have hmem := h.mem candidates pref
      have hmeets := h.meets candidates pref
      have hmissed := h.missed candidates pref
      rw [selectFirst] at hx
      rw [honours_cons]
      rcases hselect : select candidates pref with ⟨_ | y, left⟩
      · simp only [hselect] at hx hperm hmissed
        exact Or.inr ⟨hmissed trivial, (ih hx).perm h hperm⟩
      · simp only [hselect, Option.some.injEq] at hx hmem hmeets
        exact Or.inl ⟨hx ▸ hmem y rfl, hx ▸ hmeets y rfl⟩

/-- Something is selected if a candidate meets one of the preferences. -/
theorem selectFirst_isSome (h : Honest select Meets) {candidates : List α} {prefs : List π}
    {pref : π} {x : α} (hpref : pref ∈ prefs) (hx : x ∈ candidates)
    (hmeets : Meets candidates pref x) : ∃ y, selectFirst select candidates prefs = some y := by
  induction prefs generalizing candidates with
  | nil => contradiction
  | cons p prefs ih =>
      have hperm := h.perm candidates p
      have hmissed := h.missed candidates p
      rw [selectFirst]
      rcases hselect : select candidates p with ⟨_ | y, left⟩
      · simp only [hselect] at hperm hmissed
        obtain rfl | hpref := List.mem_cons.mp hpref
        · exact absurd hmeets (hmissed trivial x hx)
        · exact ih hpref (hperm.mem_iff.mpr hx) (h.meets_perm hperm.symm hmeets)
      · exact ⟨y, rfl⟩

/-- A choice from what is supported, by a list of preferences. -/
structure ChoiceAdmissible (Meets : List α → π → α → Prop) (dontCare : π)
    (supported : List α) (prefs : List π) (choice : Option α) : Prop where
  mem : ∀ x, choice = some x → x ∈ supported
  honours : prefs.getLast? = some dontCare → supported ≠ [] →
    ∃ x, choice = some x ∧ Honours Meets supported prefs x

/-- An honest search makes admissible choices, if `dontCare` is met by anything. -/
theorem choiceAdmissible_selectFirst (h : Honest select Meets) (dontCare : π)
    (hdontCare : ∀ xs x, Meets xs dontCare x) (supported : List α) (prefs : List π) :
    ChoiceAdmissible Meets dontCare supported prefs (selectFirst select supported prefs) := by
  constructor
  · intro x hx
    exact selectFirst_mem h.toSearches hx
  · intro hlast hne
    obtain ⟨x, hx⟩ := List.exists_mem_of_ne_nil supported hne
    obtain ⟨y, hy⟩ := selectFirst_isSome h (List.mem_of_getLast? hlast) hx (hdontCare supported x)
    exact ⟨y, hy, selectFirst_honours h hy⟩

end Preferences

/-! ## formats -/

inductive SwapchainFormatPreferences where
  | goldilocks
  | flexibleGoldilocks
  | dontCare
deriving DecidableEq, Repr

/-- `VK_FORMAT_B8G8R8A8_UNORM`, `VK_COLOR_SPACE_SRGB_NONLINEAR_KHR`. -/
def perfectFormat : SurfaceFormat := ⟨44, 0⟩

def isPerfect (format : SurfaceFormat) : Bool :=
  format.format = perfectFormat.format && format.colorSpace = perfectFormat.colorSpace

/-- Formats are not rated yet. -/
def ratePerfect (_format : SurfaceFormat) : Int := 0

/-- A `std::sort` of formats by their rates.  Its order of equal elements is not specified. -/
structure RateSort where
  sort : List SurfaceFormat → List SurfaceFormat
  perm : ∀ formats, (sort formats).Perm formats
  sorted : ∀ formats, (sort formats).Pairwise fun lhs rhs => ratePerfect lhs ≤ ratePerfect rhs

/-- `select_swapchain_format` for one preference, and how it leaves the formats. -/
def selectFormat (sortByRatePerfect : RateSort) (formats : List SurfaceFormat) :
    SwapchainFormatPreferences → Option SurfaceFormat × List SurfaceFormat
  | .goldilocks => (formats.find? isPerfect, formats)
  | .flexibleGoldilocks =>
      if formats.isEmpty then (none, formats)
      else ((sortByRatePerfect.sort formats).head?, sortByRatePerfect.sort formats)
  | .dontCare => (formats.head?, formats)

def selectSwapchainFormat (sortByRatePerfect : RateSort) (formats : List SurfaceFormat)
    (preferences : List SwapchainFormatPreferences) : Option SurfaceFormat :=
  selectFirst (selectFormat sortByRatePerfect) formats preferences

/-- A measure of how close formats are to the perfect one, which nothing else comes up to. -/
structure Closeness where
  rate : SurfaceFormat → Int
  rate_lt : ∀ format, format ≠ perfectFormat → rate format < rate perfectFormat

/-- No format is closer to the perfect one. -/
def Closest (closeness : Closeness) (formats : List SurfaceFormat) (format : SurfaceFormat) :
    Prop :=
  ∀ other ∈ formats, closeness.rate other ≤ closeness.rate format

/-- What a format preference asks for, in the words of the header: the perfect format, one
that is ranked highest by how close it is to it, or any. -/
def MeetsFormat (closeness : Closeness) (formats : List SurfaceFormat) :
    SwapchainFormatPreferences → SurfaceFormat → Prop
  | .goldilocks, format => format = perfectFormat
  | .flexibleGoldilocks, format => Closest closeness formats format
  | .dontCare, _ => True

theorem isPerfect_iff (format : SurfaceFormat) :
    isPerfect format = true ↔ format = perfectFormat := by
  obtain ⟨f, c⟩ := format
  rw [isPerfect, Bool.and_eq_true, decide_eq_true_iff, decide_eq_true_iff, perfectFormat,
    SurfaceFormat.mk.injEq]

/-- Some format is the closest. -/
theorem exists_closest (closeness : Closeness) {formats : List SurfaceFormat}
    (h : formats ≠ []) : ∃ format ∈ formats, Closest closeness formats format := by
  obtain ⟨format, hmem, hmax⟩ := formats.toFinset.exists_max_image closeness.rate
    (List.toFinset_nonempty_iff formats |>.mpr h)
  exact ⟨format, List.mem_toFinset.mp hmem, fun other hother =>
    hmax other (List.mem_toFinset.mpr hother)⟩

theorem searches_selectFormat (sortByRatePerfect : RateSort) :
    Searches (selectFormat sortByRatePerfect) := by
  have hperm := sortByRatePerfect.perm
  constructor
  · intro formats pref
    cases pref <;> grind [selectFormat]
  · intro formats pref format hfound
    cases pref with
    | goldilocks => exact List.mem_of_find?_eq_some hfound
    | flexibleGoldilocks =>
        simp only [selectFormat] at hfound
        split at hfound
        · contradiction
        · exact (hperm formats).mem_iff.mp (List.mem_of_head? hfound)
    | dontCare => exact List.mem_of_head? hfound

/-- `FlexibleGoldilocks` is the first preference that a format meets: only `Goldilocks` comes
before it, and not if the perfect format is supported. -/
def FlexibleDecides (formats : List SurfaceFormat) (prefs : List SwapchainFormatPreferences) :
    Prop :=
  ∃ before after, prefs = before ++ .flexibleGoldilocks :: after ∧
    ∀ pref ∈ before, pref = .goldilocks ∧ perfectFormat ∉ formats

theorem flexibleDecides_cons {formats : List SurfaceFormat} {pref : SwapchainFormatPreferences}
    {prefs : List SwapchainFormatPreferences} :
    FlexibleDecides formats (pref :: prefs) ↔ pref = .flexibleGoldilocks ∨
      pref = .goldilocks ∧ perfectFormat ∉ formats ∧ FlexibleDecides formats prefs := by
  constructor
  · rintro ⟨before, after, hprefs, hbefore⟩
    cases before with
    | nil => exact Or.inl (List.cons.inj hprefs).1
    | cons q before =>
        obtain ⟨rfl, rfl⟩ := List.cons.inj hprefs
        obtain ⟨⟨hpref, hperfect⟩, hbefore⟩ := List.forall_mem_cons.mp hbefore
        exact Or.inr ⟨hpref, hperfect, before, after, rfl, hbefore⟩
  · rintro (rfl | ⟨hpref, hperfect, before, after, rfl, hbefore⟩)
    · exact ⟨[], prefs, rfl, by simp⟩
    · exact ⟨pref :: before, after, rfl,
        List.forall_mem_cons.mpr ⟨⟨hpref, hperfect⟩, hbefore⟩⟩

theorem find?_isPerfect (formats : List SurfaceFormat) : formats.find? isPerfect =
    if perfectFormat ∈ formats then some perfectFormat else none := by
  induction formats with
  | nil => rfl
  | cons format formats ih =>
      rw [List.find?_cons, ih]
      by_cases hformat : format = perfectFormat
      · have hperfect := (isPerfect_iff perfectFormat).mpr rfl
        simp [hformat, hperfect]
      · simp [mt (isPerfect_iff format).mp hformat, Ne.symm hformat]

/-- Of a list of preferences the first decides, but for a `Goldilocks` that no format meets. -/
theorem selectSwapchainFormat_cons (sortByRatePerfect : RateSort) {formats : List SurfaceFormat}
    (hne : formats ≠ []) (pref : SwapchainFormatPreferences)
    (prefs : List SwapchainFormatPreferences) :
    selectSwapchainFormat sortByRatePerfect formats (pref :: prefs) =
      match pref with
      | .goldilocks =>
          if perfectFormat ∈ formats then some perfectFormat
          else selectSwapchainFormat sortByRatePerfect formats prefs
      | .flexibleGoldilocks => (sortByRatePerfect.sort formats).head?
      | .dontCare => formats.head? := by
  obtain ⟨first, rest, hfirst⟩ := List.exists_cons_of_ne_nil hne
  cases pref with
  | goldilocks =>
      rw [selectSwapchainFormat, selectFirst, selectFormat, find?_isPerfect]
      by_cases hperfect : perfectFormat ∈ formats <;> simp [hperfect, selectSwapchainFormat]
  | flexibleGoldilocks =>
      have hsorted : sortByRatePerfect.sort formats ≠ [] :=
        fun hnil => hne (List.nil_perm.mp (hnil ▸ sortByRatePerfect.perm formats))
      obtain ⟨y, ys, hys⟩ := List.exists_cons_of_ne_nil hsorted
      simp [selectSwapchainFormat, selectFirst, selectFormat, hne, hys]
  | dontCare => simp [selectSwapchainFormat, selectFirst, selectFormat, hfirst]

/-- **Formats**: with a list of preferences that ends in `DontCare`, what is selected honours
it exactly when the sort leaves a closest format in front, should that decide. -/
theorem honours_selectSwapchainFormat_iff (closeness : Closeness) (sortByRatePerfect : RateSort)
    {formats : List SurfaceFormat} (hne : formats ≠ [])
    {prefs : List SwapchainFormatPreferences} (hlast : prefs.getLast? = some .dontCare) :
    (∃ format, selectSwapchainFormat sortByRatePerfect formats prefs = some format ∧
        Honours (MeetsFormat closeness) formats prefs format) ↔
      (FlexibleDecides formats prefs → ∀ format,
        (sortByRatePerfect.sort formats).head? = some format →
        Closest closeness formats format) := by
  induction prefs with
  | nil => contradiction
  | cons pref prefs ih =>
      simp only [selectSwapchainFormat_cons _ hne, flexibleDecides_cons, honours_cons]
      cases pref with
      | goldilocks =>
          by_cases hperfect : perfectFormat ∈ formats
          · simp [hperfect, MeetsFormat]
          · have hnone : ∀ format, ¬ (format ∈ formats ∧ format = perfectFormat) :=
              fun format h => hperfect (h.2 ▸ h.1)
            have hmissed : (∀ format ∈ formats, ¬ format = perfectFormat) = True :=
              eq_true fun format hmem h => hnone format ⟨hmem, h⟩
            have hlast' : prefs.getLast? = some .dontCare := by
              cases prefs with
              | nil => contradiction
              | cons p prefs => simpa using hlast
            simpa [hperfect, MeetsFormat, hnone, hmissed] using ih hlast'
      | flexibleGoldilocks =>
          obtain ⟨closest, hmem, hclosest⟩ := exists_closest closeness hne
          have hmissed : ¬ ∀ format ∈ formats, ¬ Closest closeness formats format :=
            fun h => h closest hmem hclosest
          have hsorted : sortByRatePerfect.sort formats ≠ [] :=
            fun hnil => hne (List.nil_perm.mp (hnil ▸ sortByRatePerfect.perm formats))
          obtain ⟨first, rest, hfirst⟩ := List.exists_cons_of_ne_nil hsorted
          have hin : first ∈ formats :=
            (sortByRatePerfect.perm formats).mem_iff.mp (hfirst ▸ List.mem_cons_self)
          simp [MeetsFormat, hmissed, hfirst, hin]
      | dontCare =>
          obtain ⟨first, rest, rfl⟩ := List.exists_cons_of_ne_nil hne
          simp [MeetsFormat]

/-- The choice of a format is from the supported ones, and honours the preferences as far as
the sort does. -/
theorem choiceAdmissible_selectSwapchainFormat_iff (closeness : Closeness)
    (sortByRatePerfect : RateSort) (formats : List SurfaceFormat)
    (prefs : List SwapchainFormatPreferences) :
    ChoiceAdmissible (MeetsFormat closeness) .dontCare formats prefs
        (selectSwapchainFormat sortByRatePerfect formats prefs) ↔
      (prefs.getLast? = some .dontCare → FlexibleDecides formats prefs → ∀ format,
        (sortByRatePerfect.sort formats).head? = some format →
        Closest closeness formats format) := by
  constructor
  · intro h hlast hdecides format hformat
    have hne : formats ≠ [] := by
      rintro rfl
      rw [List.perm_nil.mp (sortByRatePerfect.perm [])] at hformat
      contradiction
    exact (honours_selectSwapchainFormat_iff closeness sortByRatePerfect hne hlast).mp
      (h.honours hlast hne) hdecides format hformat
  · intro h
    refine ⟨fun format hformat => ?_, fun hlast hne => ?_⟩
    · exact selectFirst_mem (searches_selectFormat sortByRatePerfect) hformat
    · exact (honours_selectSwapchainFormat_iff closeness sortByRatePerfect hne hlast).mpr
        (h hlast)

/-! ## present modes -/

inductive SwapchainPresentModePreferences where
  | preferTripleBuffering
  | dontCare
deriving DecidableEq, Repr

/-- `select_swapchain_present_mode` for one preference; the modes stay as they are. -/
def selectPresentMode (presentModes : List PresentMode) :
    SwapchainPresentModePreferences → Option PresentMode × List PresentMode
  | .preferTripleBuffering => (presentModes.find? fun mode => mode = .mailbox, presentModes)
  | .dontCare => (presentModes.head?, presentModes)

def selectSwapchainPresentMode (presentModes : List PresentMode)
    (preferences : List SwapchainPresentModePreferences) : Option PresentMode :=
  selectFirst selectPresentMode presentModes preferences

/-- What a present mode preference asks for. -/
def MeetsPresentMode (_presentModes : List PresentMode) :
    SwapchainPresentModePreferences → PresentMode → Prop
  | .preferTripleBuffering, mode => mode = .mailbox
  | .dontCare, _ => True

theorem honest_selectPresentMode : Honest selectPresentMode MeetsPresentMode := by
  refine ⟨⟨?_, ?_⟩, ?_, ?_, ?_⟩
  · intro modes pref
    cases pref <;> exact List.Perm.refl _
  · intro modes pref mode hfound
    cases pref with
    | preferTripleBuffering => exact List.mem_of_find?_eq_some hfound
    | dontCare => exact List.mem_of_head? hfound
  · intro modes pref mode hfound
    cases pref with
    | preferTripleBuffering =>
        have hfound : modes.find? (fun mode => mode = .mailbox) = some mode := hfound
        have hmode : mode = .mailbox := by simpa using List.find?_some hfound
        exact hmode
    | dontCare => trivial
  · intro modes pref hmissed mode hmem hmeets
    cases pref with
    | preferTripleBuffering =>
        exact List.find?_eq_none.mp hmissed mode hmem (decide_eq_true hmeets)
    | dontCare =>
        rw [List.head?_eq_none_iff.mp hmissed] at hmem
        contradiction
  · intro xs ys pref mode _ hmeets
    cases pref <;> exact hmeets

/-! ## extent and image count -/

/-- `std::clamp`. -/
def clamp (v lo hi : BitVec 32) : BitVec 32 := if v < lo then lo else if hi < v then hi else v

def fixToExtremes (capabilities : SurfaceCapabilities) (extent : Extent2D) : Extent2D where
  width := clamp extent.width capabilities.minImageExtent.width capabilities.maxImageExtent.width
  height := clamp extent.height capabilities.minImageExtent.height
    capabilities.maxImageExtent.height

/-- `get_real_swap_extent`; `framebuffer` is what `glfwGetFramebufferSize` answers, cast. -/
def getRealSwapExtent (capabilities : SurfaceCapabilities) (framebuffer : Extent2D) : Extent2D :=
  if capabilities.currentExtent.width ≠ BitVec.allOnes 32 then capabilities.currentExtent
  else fixToExtremes capabilities framebuffer

/-- The number of images the constructor asks for: `std::min` of the two counts. -/
def imageCount (capabilities : SurfaceCapabilities) : BitVec 32 :=
  if capabilities.maxImageCount < capabilities.minImageCount then capabilities.maxImageCount
  else capabilities.minImageCount

theorem clamp_mem {v lo hi : BitVec 32} (h : lo ≤ hi) :
    lo ≤ clamp v lo hi ∧ clamp v lo hi ≤ hi := by
  unfold clamp
  split
  · exact ⟨BitVec.le_refl _, h⟩
  · split <;> bv_omega

theorem getRealSwapExtent_mem (capabilities : SurfaceCapabilities) (framebuffer : Extent2D) :
    capabilities.minImageExtent.LE (getRealSwapExtent capabilities framebuffer) ∧
    (getRealSwapExtent capabilities framebuffer).LE capabilities.maxImageExtent := by
  obtain ⟨hwidth, hheight⟩ := capabilities.extent_le
  unfold getRealSwapExtent
  split
  · next hdefined =>
      obtain hundefined | hmem := capabilities.currentExtent_mem
      · rw [hundefined] at hdefined
        contradiction
      · exact hmem
  · obtain ⟨hw, hw'⟩ := clamp_mem (v := framebuffer.width) hwidth
    obtain ⟨hh, hh'⟩ := clamp_mem (v := framebuffer.height) hheight
    exact ⟨⟨hw, hh⟩, ⟨hw', hh'⟩⟩

/-- If there is a limit, the count is the least that is allowed; otherwise it is `0`. -/
theorem imageCount_eq (capabilities : SurfaceCapabilities) : imageCount capabilities =
    if capabilities.maxImageCount = 0 then 0 else capabilities.minImageCount := by
  have hpos := capabilities.minImageCount_pos
  have hle := capabilities.maxImageCount_le
  unfold imageCount
  split <;> split <;> bv_omega

/-! ## the constructor -/

/-- What the constructor decides of a `VkSwapchainCreateInfoKHR`. -/
structure SwapchainCreateInfo where
  minImageCount : BitVec 32
  imageFormat : SurfaceFormat
  imageExtent : Extent2D
  presentMode : PresentMode
deriving DecidableEq, Repr

structure SwapchainSupportDetails where
  capabilities : SurfaceCapabilities
  formats : List SurfaceFormat
  presentModes : List PresentMode

structure SwapchainSelectorPreferences where
  formatPref : List SwapchainFormatPreferences
  presentModePref : List SwapchainPresentModePreferences

/-- The assertion on the queue family of the device. -/
def assertsQueueFamily (queueFamily : DeviceQueueFamily) : Bool :=
  queueFamily.typesSupported.containsField ⟨[.graphics, .present]⟩

/-- `Swapchain::Swapchain`, up to the request; `none` if an assertion fires. -/
def swapchainCreateInfo (sortByRatePerfect : RateSort) (queueFamily : DeviceQueueFamily)
    (support : SwapchainSupportDetails) (framebuffer : Extent2D)
    (preferences : SwapchainSelectorPreferences) : Option SwapchainCreateInfo :=
  (selectSwapchainFormat sortByRatePerfect support.formats preferences.formatPref).bind
    fun format =>
      (selectSwapchainPresentMode support.presentModes preferences.presentModePref).bind
        fun presentMode =>
          if assertsQueueFamily queueFamily then
            some ⟨imageCount support.capabilities, format,
              getRealSwapExtent support.capabilities framebuffer, presentMode⟩
          else none

/-- The parameters of a request that a surface admits. -/
structure ParametersAdmissible (closeness : Closeness) (sortByRatePerfect : RateSort)
    (support : SwapchainSupportDetails) (framebuffer : Extent2D)
    (preferences : SwapchainSelectorPreferences) : Prop where
  minCount : support.capabilities.minImageCount ≤ imageCount support.capabilities
  maxCount : support.capabilities.maxImageCount ≠ 0 →
    imageCount support.capabilities ≤ support.capabilities.maxImageCount
  minExtent : support.capabilities.minImageExtent.LE
    (getRealSwapExtent support.capabilities framebuffer)
  maxExtent : (getRealSwapExtent support.capabilities framebuffer).LE
    support.capabilities.maxImageExtent
  format : ChoiceAdmissible (MeetsFormat closeness) .dontCare support.formats
    preferences.formatPref
    (selectSwapchainFormat sortByRatePerfect support.formats preferences.formatPref)
  presentMode : ChoiceAdmissible MeetsPresentMode .dontCare support.presentModes
    preferences.presentModePref
    (selectSwapchainPresentMode support.presentModes preferences.presentModePref)

/-- A surface with at least two images of any size up to 4096, and no limit to their number. -/
def unlimited : SurfaceCapabilities where
  minImageCount := 2
  maxImageCount := 0
  currentExtent := .undefined
  minImageExtent := ⟨1, 1⟩
  maxImageExtent := ⟨4096, 4096⟩
  minImageCount_pos := by decide
  maxImageCount_le := by decide
  extent_le := by decide
  currentExtent_mem := .inl rfl

/-- The same with at most three images. -/
def atMostThree : SurfaceCapabilities :=
  { unlimited with maxImageCount := 3, maxImageCount_le := by decide }

/-- All rates are equal, so a sort may leave the formats as they are. -/
def keepOrder : RateSort :=
  ⟨id, fun _ => .refl _, fun _ => List.pairwise_of_forall fun _ _ => Int.le_refl 0⟩

end Hardware
end Vk
end Topaz
