import Topaz.EnumField
import Topaz.Tzslc.Transform
import Mathlib.Data.List.TakeWhile

/-!
# Topaz.Tzslc.Preprocessor

`tzslc::preprocess` and its one module, which replaces `tz_sampler2D_uniform(n)` by a
layout qualifier for binding or location `n`.

The regular expression is modelled by the matcher `samplerSearch`; `HasSampler` says
without it what it looks for.  `Replaced` is what the module should do to a source.  No
qualifier makes a new declaration together with the text around it, so what is left of
a source after the replacement has none (`Replaced.not_hasSampler`).
-/

namespace Topaz
namespace Tzslc

inductive RenderApi where
  | vulkan
  | ogl
deriving DecidableEq, Repr

inductive PreprocessorModule where
  | sampler
deriving DecidableEq, Repr

/-! ## the regular expression -/

/-- The text before the number. -/
def samplerHead : Text := "tz_sampler2D_uniform(".toList

/-- `tz_sampler2D_uniform(digits)`. -/
def samplerUniform (digits : Text) : Text := samplerHead ++ digits ++ [')']

/-- A match at the start of a text. -/
def samplerHere (text : Text) : Option RegexMatch :=
  match samplerHead.isPrefixOf? text with
  | none => none
  | some rest =>
      match rest.takeWhile Char.isDigit, rest.dropWhile Char.isDigit with
      | digit :: digits, ')' :: _ =>
          some ⟨0, (samplerUniform (digit :: digits)).length, [digit :: digits]⟩
      | _, _ => none

/-- `std::regex_search` with `tz_sampler2D_uniform\(([0-9]+)\)`. -/
def samplerSearch : Text → Option RegexMatch
  | [] => none
  | c :: text =>
      match samplerHere (c :: text) with
      | some m => some m
      | none => (samplerSearch text).map fun m => { m with position := m.position + 1 }

/-- `[0-9]+`. -/
def IsNumber (digits : Text) : Prop := digits ≠ [] ∧ ∀ c ∈ digits, c.isDigit = true

def SamplerHere (text : Text) : Prop :=
  ∃ digits after, IsNumber digits ∧ text = samplerUniform digits ++ after

/-- `tz_sampler2D_uniform(digits)` occurs in a text. -/
def OccursIn (digits text : Text) : Prop :=
  IsNumber digits ∧ ∃ before after, text = before ++ (samplerUniform digits ++ after)

def HasSampler (text : Text) : Prop := ∃ digits, OccursIn digits text

theorem samplerHere_eq_some {text : Text} {m : RegexMatch} :
    samplerHere text = some m ↔
      ∃ digits after, IsNumber digits ∧ text = samplerUniform digits ++ after ∧
        m = ⟨0, (samplerUniform digits).length, [digits]⟩ := by
  constructor
  · intro h
    unfold samplerHere at h
    split at h
    · cases h
    · rename_i rest hrest
      split at h
      · rename_i digit digits after htake hdrop
        have hsplit := List.takeWhile_append_dropWhile (p := Char.isDigit) (l := rest)
        rw [htake, hdrop] at hsplit
        have hdigits : ∀ c ∈ digit :: digits, c.isDigit = true := by
          intro c hc
          rw [← htake] at hc
          exact List.mem_takeWhile_imp hc
        refine ⟨digit :: digits, after, ⟨List.cons_ne_nil _ _, hdigits⟩, ?_,
          (Option.some.inj h).symm⟩
        rw [← List.isPrefixOf?_eq_some_iff_append_eq.mp hrest, ← hsplit]
        simp [samplerUniform]
      · cases h
  · intro h
    obtain ⟨digits, after, ⟨hne, hdigits⟩, rfl, rfl⟩ := h
    have hrest : samplerHead.isPrefixOf? (samplerUniform digits ++ after) =
        some (digits ++ ')' :: after) := by
      rw [List.isPrefixOf?_eq_some_iff_append_eq]
      simp [samplerUniform]
    have htake : (digits ++ ')' :: after).takeWhile Char.isDigit = digits := by
      rw [List.takeWhile_append_of_pos hdigits, List.takeWhile_cons_of_neg (by decide),
        List.append_nil]
    have hdrop : (digits ++ ')' :: after).dropWhile Char.isDigit = ')' :: after := by
      rw [List.dropWhile_append_of_pos hdigits, List.dropWhile_cons_of_neg (by decide)]
    obtain ⟨digit, digits, rfl⟩ := List.exists_cons_of_ne_nil hne
    simp only [samplerHere, hrest, htake, hdrop]

theorem samplerHere_eq_none {text : Text} : samplerHere text = none ↔ ¬ SamplerHere text := by
  rw [← not_iff_not, not_not, ← ne_eq, Option.ne_none_iff_exists']
  constructor
  · intro h
    obtain ⟨m, hm⟩ := h
    obtain ⟨digits, after, hnumber, htext, _⟩ := samplerHere_eq_some.mp hm
    exact ⟨digits, after, hnumber, htext⟩
  · intro h
    obtain ⟨digits, after, hnumber, htext⟩ := h
    exact ⟨_, samplerHere_eq_some.mpr ⟨digits, after, hnumber, htext, rfl⟩⟩

theorem not_hasSampler_nil : ¬ HasSampler [] := by
  intro h
  obtain ⟨digits, _, before, after, heq⟩ := h
  simp [samplerUniform] at heq

theorem hasSampler_cons {c : Char} {text : Text} :
    HasSampler (c :: text) ↔ SamplerHere (c :: text) ∨ HasSampler text := by
  constructor
  · intro h
    obtain ⟨digits, hnumber, before, after, heq⟩ := h
    cases before with
    | nil => exact Or.inl ⟨digits, after, hnumber, heq⟩
    | cons b before => exact Or.inr ⟨digits, hnumber, before, after, (List.cons.inj heq).2⟩
  · intro h
    obtain ⟨digits, after, hnumber, heq⟩ | ⟨digits, hnumber, before, after, heq⟩ := h
    · exact ⟨digits, hnumber, [], after, heq⟩
    · exact ⟨digits, hnumber, c :: before, after, by rw [heq, List.cons_append]⟩

/-- The search finds something just when there is something. -/
theorem samplerSearch_eq_none {text : Text} : samplerSearch text = none ↔ ¬ HasSampler text := by
  induction text with
  | nil => simp [samplerSearch, not_hasSampler_nil]
  | cons c text ih =>
      rw [hasSampler_cons, not_or, ← samplerHere_eq_none, ← ih, samplerSearch]
      cases samplerHere (c :: text) <;> simp

/-- What the search finds is the first. -/
theorem samplerSearch_eq_some {text : Text} {m : RegexMatch} (h : samplerSearch text = some m) :
    ∃ before digits after, IsNumber digits ∧ ¬ HasSampler before ∧
      text = before ++ (samplerUniform digits ++ after) ∧
      m = ⟨before.length, (samplerUniform digits).length, [digits]⟩ := by
  induction text generalizing m with
  | nil => cases h
  | cons c text ih =>
      rw [samplerSearch] at h
      split at h
      · rename_i m' hm
        obtain ⟨digits, after, hnumber, htext, hm'⟩ := samplerHere_eq_some.mp hm
        rw [Option.some.injEq] at h
        exact ⟨[], digits, after, hnumber, not_hasSampler_nil, htext, by rw [← h, hm']; rfl⟩
      · rename_i hnone
        obtain ⟨m', hm', rfl⟩ := Option.map_eq_some_iff.mp h
        obtain ⟨before, digits, after, hnumber, hbefore, htext, rfl⟩ := ih hm'
        refine ⟨c :: before, digits, after, hnumber, ?_, by rw [htext, List.cons_append], rfl⟩
        rw [hasSampler_cons]
        intro hhas
        rcases hhas with ⟨digits', after', hnumber', heq⟩ | hhas
        · -- a declaration within what comes before would have been found here
          apply samplerHere_eq_none.mp hnone
          refine ⟨digits', after' ++ (samplerUniform digits ++ after), hnumber', ?_⟩
          rw [htext, ← List.cons_append, heq, List.append_assoc]
        · exact hbefore hhas

/-- The regular expression. -/
def samplerRegex : Regex where
  search := samplerSearch
  length_pos := by
    intro text m h
    obtain ⟨_, digits, _, _, _, _, rfl⟩ := samplerSearch_eq_some h
    exact Nat.succ_pos _
  within := by
    intro text m h
    obtain ⟨before, digits, after, _, _, rfl, rfl⟩ := samplerSearch_eq_some h
    simp only [List.length_append]
    omega

/-! ## the module -/

/-- `std::stoi` of a text of digits. -/
def stoi (digits : Text) : Except Exception Nat :=
  if digits = [] then .error .invalidArgument
  else if Nat.ofDigitChars 10 digits 0 ≤ 2147483647 then .ok (Nat.ofDigitChars 10 digits 0)
  else .error .outOfRange

/-- The layout qualifier for a number. -/
def samplerQualifier (api : RenderApi) (id : Nat) : Text :=
  "/*tzslc*/ layout(".toList ++
    (match api with
      | .vulkan => "binding".toList
      | .ogl => "location".toList) ++
    " = ".toList ++ Nat.toDigits 10 id ++ ") uniform sampler2D".toList

/-- What a match is replaced by. -/
def samplerReplacement (api : RenderApi) : List Text → Except Exception Text
  | digits :: _ => (stoi digits).map (samplerQualifier api)
  -- the expression has one group
  | [] => .error .invalidArgument

/-- `preprocess_samplers`. -/
def preprocessSamplers (api : RenderApi) (shaderSource : Text) :
    Except Exception (Text × Bool) := do
  let (shaderSource, _) ← transform samplerRegex (samplerReplacement api) shaderSource
  return (shaderSource, false)

/-- `preprocess`: the new source, and whether it says that work was done. -/
def preprocess (api : RenderApi) (modules : EnumField PreprocessorModule) (shaderSource : Text) :
    Except Exception (Text × Bool) := do
  let doneAnyWork := false
  if modules.contains .sampler then
    let (shaderSource, done) ← preprocessSamplers api shaderSource
    return (shaderSource, doneAnyWork || done)
  else
    return (shaderSource, doneAnyWork)

/-! ## what it should do -/

/-- Every declaration of a text has been replaced by the qualifier for its number. -/
inductive Replaced (api : RenderApi) : Text → Text → Prop where
  | none {text : Text} (h : ¬ HasSampler text) : Replaced api text text
  | first {before digits after result : Text} (hbefore : ¬ HasSampler before)
      (hnumber : IsNumber digits) (hafter : Replaced api after result) :
      Replaced api (before ++ (samplerUniform digits ++ after))
        (before ++ (samplerQualifier api (Nat.ofDigitChars 10 digits 0) ++ result))

/-- Preprocessing returns; with the module every declaration is replaced, none is left, a
second run changes nothing, and a change is reported; without it nothing changes. -/
def PreprocessedExactly (api : RenderApi) (modules : EnumField PreprocessorModule)
    (source : Text) : Prop :=
  ∃ result done, preprocess api modules source = .ok (result, done) ∧
    (modules.contains .sampler = true →
      Replaced api source result ∧ ¬ HasSampler result ∧
        (∃ again, preprocess api modules result = .ok (result, again)) ∧
        (done = true ↔ result ≠ source)) ∧
    (modules.contains .sampler = false → result = source)

/-! ## no new declarations -/

/-- A text without a declaration and one that starts with a character that declarations
do not have. -/
theorem not_hasSampler_append {before text : Text} {c : Char} (hbefore : ¬ HasSampler before)
    (hc : ∀ digits, IsNumber digits → c ∉ samplerUniform digits)
    (htext : ¬ HasSampler (c :: text)) : ¬ HasSampler (before ++ c :: text) := by
  induction before with
  | nil => exact htext
  | cons b before ih =>
      rw [hasSampler_cons, not_or] at hbefore
      rw [List.cons_append, hasSampler_cons, not_or]
      constructor
      · intro hhere
        obtain ⟨digits, after, hnumber, heq⟩ := hhere
        rw [← List.cons_append, List.append_eq_append_iff] at heq
        obtain ⟨rest, hwhole, hafter⟩ | ⟨rest, hwhole, _⟩ := heq
        · cases rest with
          | nil =>
              apply hbefore.1
              exact ⟨digits, [], hnumber, by rw [List.append_nil, hwhole, List.append_nil]⟩
          | cons d rest =>
              -- the declaration goes on past the end of `before`, through `c`
              apply hc digits hnumber
              rw [hwhole, (List.cons.inj hafter).1]
              simp
        · exact hbefore.1 ⟨digits, rest, hnumber, hwhole⟩
      · exact ih hbefore.2

/-- Declarations start with a `t`. -/
theorem hasSampler_append {before : Text} (h : 't' ∉ before) (text : Text) :
    HasSampler (before ++ text) ↔ HasSampler text := by
  induction before with
  | nil => rfl
  | cons b before ih =>
      rw [List.mem_cons, not_or] at h
      rw [List.cons_append, hasSampler_cons, ih h.2]
      constructor
      · intro hhas
        obtain ⟨digits, after, _, heq⟩ | hhas := hhas
        · exact absurd (List.cons.inj heq).1.symm h.1
        · exact hhas
      · exact Or.inr

theorem not_mem_samplerUniform {c : Char} (hhead : c ∉ samplerHead ++ [')'])
    (hdigit : c.isDigit = false) : ∀ digits, IsNumber digits → c ∉ samplerUniform digits := by
  intro digits hnumber hmem
  simp only [samplerUniform, List.mem_append, List.mem_singleton] at hmem hhead
  rcases hmem with (hmem | hmem) | hmem
  · exact hhead (Or.inl hmem)
  · have htrue := hnumber.2 c hmem
    rw [hdigit] at htrue
    cases htrue
  · exact hhead (Or.inr hmem)

/-- A qualifier makes no declaration with the text behind it. -/
theorem not_hasSampler_qualifier (api : RenderApi) (id : Nat) {text : Text}
    (h : ¬ HasSampler text) : ¬ HasSampler (samplerQualifier api id ++ text) := by
  have hspace := not_mem_samplerUniform (c := ' ') (by decide) (by decide)
  have hnot : 't' ∉ ' ' :: ("= ".toList ++ Nat.toDigits 10 id ++ ") uniform sampler2D".toList) := by
    have hdigits : 't' ∉ Nat.toDigits 10 id := by
      intro hmem
      have hdigit := Nat.isDigit_of_mem_toDigits (by decide) (by decide) hmem
      exact absurd hdigit (by decide)
    simp [hdigits]
  -- the qualifier is cut at two of its blanks
  have hthird := (hasSampler_append hnot text).not.mpr h
  have hword : ∀ word : Text, samplerSearch (' ' :: ("layout(".toList ++ word)) = none →
      ¬ HasSampler ("/*tzslc*/ layout(".toList ++ word ++ " = ".toList ++ Nat.toDigits 10 id ++
        ") uniform sampler2D".toList ++ text) := by
    intro word hsearch
    have hsecond := not_hasSampler_append (samplerSearch_eq_none.mp hsearch) hspace hthird
    have hcomment : ¬ HasSampler "/*tzslc*/".toList := samplerSearch_eq_none.mp (by decide)
    have hfirst := not_hasSampler_append hcomment hspace hsecond
    simpa using hfirst
  cases api with
  | vulkan => exact hword _ (by decide)
  | ogl => exact hword _ (by decide)

theorem Replaced.not_hasSampler {api : RenderApi} {source result : Text}
    (h : Replaced api source result) : ¬ HasSampler result := by
  induction h with
  | none h => exact h
  | first hbefore hnumber hafter ih =>
      apply not_hasSampler_append hbefore _ (not_hasSampler_qualifier api _ ih)
      exact not_mem_samplerUniform (by decide) (by decide)

/-! ## runs -/

section

variable {api : RenderApi} {modules : EnumField PreprocessorModule} {source : Text}

theorem preprocess_of_not_contains (h : modules.contains .sampler = false) :
    preprocess api modules source = .ok (source, false) := by
  rw [preprocess, h]
  rfl

/-- With the module, what `transform` reports is thrown away. -/
theorem preprocess_of_contains (h : modules.contains .sampler = true) :
    preprocess api modules source =
      (replacedFrom samplerRegex (samplerReplacement api) source 0).map fun text =>
        (text, false) := by
  rw [preprocess, h, preprocessSamplers, transform_eq]
  cases replacedFrom samplerRegex (samplerReplacement api) source 0 <;> rfl

/-- Preprocessing never reports work. -/
theorem preprocess_done {result : Text} {done : Bool}
    (h : preprocess api modules source = .ok (result, done)) : done = false := by
  cases hmodule : modules.contains .sampler with
  | false =>
      rw [preprocess_of_not_contains hmodule] at h
      simp_all
  | true =>
      rw [preprocess_of_contains hmodule] at h
      cases hrun : replacedFrom samplerRegex (samplerReplacement api) source 0 <;>
        simp_all [Except.map]

theorem preprocess_of_not_hasSampler (h : ¬ HasSampler source) :
    preprocess api modules source = .ok (source, false) := by
  cases hmodule : modules.contains .sampler with
  | false => exact preprocess_of_not_contains hmodule
  | true =>
      rw [preprocess_of_contains hmodule, replacedFrom_none (samplerSearch_eq_none.mpr h)]
      rfl

variable (api) in
/-- Replacing from left to right gives every declaration its qualifier, if the numbers
fit an `int`. -/
theorem replaced_leftToRight
    (hfits : ∀ digits, OccursIn digits source → Nat.ofDigitChars 10 digits 0 ≤ 2147483647) :
    ∃ result, leftToRight samplerRegex (samplerReplacement api) source = .ok result ∧
      Replaced api source result := by
  induction source using samplerRegex.match_induction with
  | none source hm => exact ⟨source, leftToRight_none hm, .none (samplerSearch_eq_none.mp hm)⟩
  | some source m hm ih =>
      obtain ⟨before, digits, after, hnumber, hbefore, rfl, rfl⟩ := samplerSearch_eq_some hm
      have hsuffix : RegexMatch.suffix ⟨before.length, (samplerUniform digits).length, [digits]⟩
          (before ++ (samplerUniform digits ++ after)) = after := by
        simp [RegexMatch.suffix, List.drop_append]
      rw [hsuffix] at ih
      have hrest : ∀ digits', OccursIn digits' after →
          Nat.ofDigitChars 10 digits' 0 ≤ 2147483647 := by
        intro digits' hocc
        obtain ⟨hnumber', before', after', heq⟩ := hocc
        apply hfits digits' ⟨hnumber', before ++ (samplerUniform digits ++ before'), after', _⟩
        simp [heq]
      obtain ⟨result, hresult, hreplaced⟩ := ih hrest
      have hstoi : stoi digits = .ok (Nat.ofDigitChars 10 digits 0) := by
        rw [stoi, if_neg hnumber.1, if_pos (hfits digits ⟨hnumber, before, after, rfl⟩)]
      refine ⟨_, ?_, .first hbefore hnumber hreplaced⟩
      rw [leftToRight_some hm, hsuffix, hresult, samplerReplacement, hstoi]
      simp [Except.map, Except.bind]

/-- With the module, all but the report is right when the numbers fit and the text behind
each declaration is found in its place. -/
theorem preprocess_replaces (hmodule : modules.contains .sampler = true)
    (hplace : FoundInPlace samplerRegex source)
    (hfits : ∀ digits, OccursIn digits source → Nat.ofDigitChars 10 digits 0 ≤ 2147483647) :
    ∃ result, preprocess api modules source = .ok (result, false) ∧
      Replaced api source result ∧ ¬ HasSampler result ∧
      preprocess api modules result = .ok (result, false) := by
  obtain ⟨result, hresult, hreplaced⟩ := replaced_leftToRight api hfits
  have hnone := hreplaced.not_hasSampler
  refine ⟨result, ?_, hreplaced, hnone, preprocess_of_not_hasSampler hnone⟩
  rw [preprocess_of_contains hmodule, replacedFrom_eq hplace _ .start, List.drop_zero, hresult]
  rfl

end

/-- **Preprocessing**: it does what it should, and says so, exactly when there is nothing
for it to do. -/
theorem preprocessed_exactly_iff (api : RenderApi) (modules : EnumField PreprocessorModule)
    (source : Text) :
    PreprocessedExactly api modules source ↔
      modules.contains .sampler = false ∨ ¬ HasSampler source := by
  constructor
  · intro h
    obtain ⟨result, done, hrun, hwith, _⟩ := h
    by_contra hneither
    rw [not_or, Bool.not_eq_false, not_not] at hneither
    obtain ⟨hmodule, hhas⟩ := hneither
    obtain ⟨_, hnone, _, hdone⟩ := hwith hmodule
    have hchanged : result ≠ source := by
      intro hsame
      rw [hsame] at hnone
      exact hnone hhas
    have htrue := hdone.mpr hchanged
    rw [preprocess_done hrun] at htrue
    cases htrue
  · intro h
    obtain hmodule | hnone := h
    · refine ⟨source, false, preprocess_of_not_contains hmodule, ?_, fun _ => rfl⟩
      intro hcontains
      rw [hmodule] at hcontains
      cases hcontains
    · refine ⟨source, false, preprocess_of_not_hasSampler hnone, ?_, fun _ => rfl⟩
      intro _
      exact ⟨.none hnone, hnone, ⟨false, preprocess_of_not_hasSampler hnone⟩, by simp⟩

/-- A source that is one declaration: it is replaced, and no work is reported. -/
theorem sampler_work_unreported :
    preprocess .ogl ⟨[.sampler]⟩ "tz_sampler2D_uniform(3)".toList =
        .ok ("/*tzslc*/ layout(location = 3) uniform sampler2D".toList, false) ∧
      ¬ PreprocessedExactly .ogl ⟨[.sampler]⟩ "tz_sampler2D_uniform(3)".toList := by
  have hrun : preprocess .ogl ⟨[.sampler]⟩ "tz_sampler2D_uniform(3)".toList =
      .ok ("/*tzslc*/ layout(location = 3) uniform sampler2D".toList, false) := by
    rw [preprocess_of_contains rfl, replacedFrom_some (m := ⟨0, 23, ["3".toList]⟩) (by rfl),
      replacedFrom_none (by rfl)]
    rfl
  refine ⟨hrun, ?_⟩
  intro h
  obtain ⟨result, done, hresult, hwith, _⟩ := h
  rw [hrun] at hresult
  cases hresult
  have hdone := (hwith rfl).2.2.2
  exact absurd (hdone.mpr (by decide)) (by decide)

end Tzslc
end Topaz
