import Topaz.Splice

/-!
# Topaz.Tzslc.Transform

`tzslc::transform`: replacing what a regular expression matches in a source.

The loop searches what is left of the source after the last match, and recovers the
position of what is left by searching the whole source for it.  The replacements are
made at the end, the last one first, at the positions that were recorded.

`leftToRight` is what the function is for.  The two agree when what is left occurs in
the source nowhere before the place where it stands.
-/

namespace Topaz
namespace Tzslc

abbrev Text := List Char

inductive Exception where
  | outOfRange
  | invalidArgument
deriving DecidableEq, Repr

/-- A `std::smatch`: where the match is, and what its groups captured. -/
structure RegexMatch where
  position : Nat
  length : Nat
  groups : List Text
deriving DecidableEq, Repr

/-- A regular expression that matches no empty text; `search` is `std::regex_search`. -/
structure Regex where
  search : Text → Option RegexMatch
  length_pos : ∀ {text m}, search text = some m → 0 < m.length
  within : ∀ {text m}, search text = some m → m.position + m.length ≤ text.length

/-- `sm.suffix()`. -/
def RegexMatch.suffix (m : RegexMatch) (text : Text) : Text := text.drop (m.position + m.length)

theorem Regex.length_suffix_lt (regex : Regex) {text : Text} {m : RegexMatch}
    (h : regex.search text = some m) : (m.suffix text).length < text.length := by
  have hpos := regex.length_pos h
  have hwithin := regex.within h
  rw [RegexMatch.suffix, List.length_drop]
  omega

/-- Induction along the matches in a text: what holds of texts without a match, and of a
text when it holds of what follows its first match, holds of every text. -/
theorem Regex.match_induction (regex : Regex) {P : Text → Prop}
    (none : ∀ text, regex.search text = none → P text)
    (some : ∀ text m, regex.search text = some m → P (m.suffix text) → P text)
    (text : Text) : P text := by
  cases hm : regex.search text with
  | none => exact none text hm
  | some m => exact some text m hm (regex.match_induction none some (m.suffix text))
termination_by text.length
decreasing_by exact regex.length_suffix_lt hm

/-! ## the function -/

structure ReplaceJob where
  pos : Nat
  len : Nat
  replacement : Text
deriving DecidableEq, Repr

/-- The `while` loop of `transform`. -/
def searchLoop (regex : Regex) (transformFunction : List Text → Except Exception Text)
    (source : Text) (srcCopy : Text) (srcPosCounter : Nat) (replacements : List ReplaceJob) :
    Except Exception (List ReplaceJob) :=
  match _h : regex.search srcCopy with
  | none => .ok replacements
  | some sm =>
      match transformFunction sm.groups with
      | .error e => .error e
      | .ok replacement =>
          searchLoop regex transformFunction source (sm.suffix srcCopy)
            (find source (sm.suffix srcCopy))
            (replacements ++ [⟨sm.position + srcPosCounter, sm.length, replacement⟩])
termination_by srcCopy.length
decreasing_by exact regex.length_suffix_lt _h

/-- `source.replace(pos, len, replacement)`. -/
def ReplaceJob.apply (job : ReplaceJob) (source : Text) : Except Exception Text :=
  if job.pos ≤ source.length then .ok (splice source job.pos job.len job.replacement)
  else .error .outOfRange

/-- The `for` loop of `transform`, over the replacements in reverse. -/
def replaceLoop (replacements : List ReplaceJob) (source : Text) : Except Exception Text :=
  replacements.reverse.foldlM (fun source job => job.apply source) source

/-- `transform`: the new source, and whether anything was replaced. -/
def transform (regex : Regex) (transformFunction : List Text → Except Exception Text)
    (source : Text) : Except Exception (Text × Bool) := do
  let replacements ← searchLoop regex transformFunction source source 0 []
  let result ← replaceLoop replacements source
  return (result, !replacements.isEmpty)

/-! ## what it is for -/

/-- Replacing from left to right. -/
def leftToRight (regex : Regex) (f : List Text → Except Exception Text) (text : Text) :
    Except Exception Text :=
  match _h : regex.search text with
  | none => .ok text
  | some m => do
      let replacement ← f m.groups
      let rest ← leftToRight regex f (m.suffix text)
      return text.take m.position ++ replacement ++ rest
termination_by text.length
decreasing_by exact regex.length_suffix_lt _h

/-- The transformation is the replacement from left to right, and reports whether there
was a match. -/
def EqualsLeftToRight (regex : Regex) (source : Text) : Prop :=
  ∀ f : List Text → Except Exception Text,
    transform regex f source =
      (leftToRight regex f source).map fun text => (text, (regex.search source).isSome)

/-- A scan of `source` from the left starts a search at index `p`. -/
inductive Scans (regex : Regex) (source : Text) : Nat → Prop where
  | start : Scans regex source 0
  | next {p : Nat} {m : RegexMatch} (h : Scans regex source p)
      (hm : regex.search (source.drop p) = some m) :
      Scans regex source (p + (m.position + m.length))

/-- Wherever a search that has a match starts, what is left of the source does not occur
before. -/
def FoundInPlace (regex : Regex) (source : Text) : Prop :=
  ∀ p, Scans regex source p → (regex.search (source.drop p)).isSome = true →
    find source (source.drop p) = p

/-! ## the loops -/

section

variable {regex : Regex} {f : List Text → Except Exception Text} {source : Text}

theorem searchLoop_none {srcCopy : Text} (h : regex.search srcCopy = none) (counter : Nat)
    (replacements : List ReplaceJob) :
    searchLoop regex f source srcCopy counter replacements = .ok replacements := by
  rw [searchLoop]
  split <;> simp_all

theorem searchLoop_some {srcCopy : Text} {m : RegexMatch} (h : regex.search srcCopy = some m)
    (counter : Nat) (replacements : List ReplaceJob) :
    searchLoop regex f source srcCopy counter replacements =
      (f m.groups).bind fun replacement =>
        searchLoop regex f source (m.suffix srcCopy) (find source (m.suffix srcCopy))
          (replacements ++ [⟨m.position + counter, m.length, replacement⟩]) := by
  rw [searchLoop]
  split
  · simp_all
  · rename_i m' hm'
    obtain rfl : m' = m := Option.some.inj (hm'.symm.trans h)
    cases f m'.groups <;> rfl

/-- The accumulator only collects. -/
theorem searchLoop_append (srcCopy : Text) (counter : Nat) (first second : List ReplaceJob) :
    searchLoop regex f source srcCopy counter (first ++ second) =
      (searchLoop regex f source srcCopy counter second).map (first ++ ·) := by
  fun_induction searchLoop regex f source srcCopy counter second with
  | case1 srcCopy counter second h => rw [searchLoop_none h]; rfl
  | case2 srcCopy counter second m h e he => rw [searchLoop_some h, he]; rfl
  | case3 srcCopy counter second m h replacement hr ih =>
      rw [searchLoop_some h, hr, ← ih, ← List.append_assoc]
      rfl

theorem leftToRight_none {text : Text} (h : regex.search text = none) :
    leftToRight regex f text = .ok text := by
  rw [leftToRight]
  split <;> simp_all

theorem leftToRight_some {text : Text} {m : RegexMatch} (h : regex.search text = some m) :
    leftToRight regex f text =
      (f m.groups).bind fun replacement =>
        (leftToRight regex f (m.suffix text)).map fun rest =>
          text.take m.position ++ replacement ++ rest := by
  rw [leftToRight]
  split
  · simp_all
  · rename_i m' hm'
    obtain rfl : m' = m := Option.some.inj (hm'.symm.trans h)
    rfl

/-- The replacements that a search from index `p` on records. -/
def jobsFrom (regex : Regex) (f : List Text → Except Exception Text) (source : Text) (p : Nat) :
    Except Exception (List ReplaceJob) :=
  searchLoop regex f source (source.drop p) (find source (source.drop p)) []

theorem suffix_drop (m : RegexMatch) (source : Text) (p : Nat) :
    m.suffix (source.drop p) = source.drop (p + (m.position + m.length)) := by
  rw [RegexMatch.suffix, List.drop_drop]

theorem jobsFrom_none {p : Nat} (h : regex.search (source.drop p) = none) :
    jobsFrom regex f source p = .ok [] :=
  searchLoop_none h _ _

theorem jobsFrom_some {p : Nat} {m : RegexMatch} (h : regex.search (source.drop p) = some m) :
    jobsFrom regex f source p =
      (f m.groups).bind fun replacement =>
        (jobsFrom regex f source (p + (m.position + m.length))).map
          (⟨m.position + find source (source.drop p), m.length, replacement⟩ :: ·) := by
  rw [jobsFrom, searchLoop_some h, suffix_drop]
  congr 1
  funext replacement
  exact searchLoop_append _ _
    [⟨m.position + find source (source.drop p), m.length, replacement⟩] []

theorem searchLoop_source : searchLoop regex f source source 0 [] = jobsFrom regex f source 0 := by
  rw [jobsFrom, List.drop_zero, find_self]

/-- The first replacement is made last. -/
theorem replaceLoop_cons (job : ReplaceJob) (jobs : List ReplaceJob) :
    replaceLoop (job :: jobs) source = (replaceLoop jobs source).bind job.apply := by
  simp [replaceLoop, List.foldlM_append]
  rfl

/-- The source after the replacements that a search from index `p` on records. -/
def replacedFrom (regex : Regex) (f : List Text → Except Exception Text) (source : Text)
    (p : Nat) : Except Exception Text :=
  (jobsFrom regex f source p).bind fun jobs => replaceLoop jobs source

theorem replacedFrom_none {p : Nat} (h : regex.search (source.drop p) = none) :
    replacedFrom regex f source p = .ok source := by
  rw [replacedFrom, jobsFrom_none h]
  rfl

theorem replacedFrom_some {p : Nat} {m : RegexMatch}
    (h : regex.search (source.drop p) = some m) :
    replacedFrom regex f source p =
      (f m.groups).bind fun replacement =>
        (replacedFrom regex f source (p + (m.position + m.length))).bind
          (ReplaceJob.apply
            ⟨m.position + find source (source.drop p), m.length, replacement⟩) := by
  rw [replacedFrom, jobsFrom_some h, replacedFrom]
  cases f m.groups with
  | error e => rfl
  | ok replacement =>
      cases jobsFrom regex f source (p + (m.position + m.length)) with
      | error e => rfl
      | ok jobs => exact replaceLoop_cons _ jobs

theorem isEmpty_jobsFrom {p : Nat} {jobs : List ReplaceJob}
    (h : jobsFrom regex f source p = .ok jobs) :
    (!jobs.isEmpty) = (regex.search (source.drop p)).isSome := by
  cases hm : regex.search (source.drop p) with
  | none =>
      rw [jobsFrom_none hm, Except.ok.injEq] at h
      rw [← h]
      rfl
  | some m =>
      rw [jobsFrom_some hm] at h
      cases hf : f m.groups with
      | error e => simp [hf, Except.bind] at h
      | ok replacement =>
          cases hrest : jobsFrom regex f source (p + (m.position + m.length)) with
          | error e => simp [hf, hrest, Except.bind, Except.map] at h
          | ok rest =>
              simp only [hf, hrest, Except.bind, Except.map, Except.ok.injEq] at h
              simp [← h]

/-- What `transform` returns is right whatever becomes of the source. -/
theorem transform_eq :
    transform regex f source =
      (replacedFrom regex f source 0).map fun text => (text, (regex.search source).isSome) := by
  rw [transform, searchLoop_source, replacedFrom]
  cases hjobs : jobsFrom regex f source 0 with
  | error e => rfl
  | ok jobs =>
      have hflag := isEmpty_jobsFrom hjobs
      rw [List.drop_zero] at hflag
      rw [← hflag]
      change (replaceLoop jobs source).bind _ = (replaceLoop jobs source).map _
      cases replaceLoop jobs source <;> rfl

end

theorem Scans.le {regex : Regex} {source : Text} {p : Nat} (h : Scans regex source p) :
    p ≤ source.length := by
  induction h with
  | start => exact Nat.zero_le _
  | next _ hm ih =>
      have hwithin := regex.within hm
      rw [List.length_drop] at hwithin
      omega

theorem apply_eq_ok {job : ReplaceJob} {source text : Text} :
    job.apply source = .ok text ↔
      job.pos ≤ source.length ∧ splice source job.pos job.len job.replacement = text := by
  by_cases h : job.pos ≤ source.length <;> simp [ReplaceJob.apply, h]

/-! ## agreement -/

/-- A replacement at its right place, in a source that has been replaced behind it. -/
theorem apply_in_place {source : Text} {p position length : Nat}
    (h : p + (position + length) ≤ source.length) (replacement rest : Text) :
    ReplaceJob.apply ⟨position + p, length, replacement⟩
        (source.take (p + (position + length)) ++ rest) =
      .ok (source.take p ++ ((source.drop p).take position ++ replacement ++ rest)) := by
  have hsplit : source.take (p + (position + length)) =
      source.take p ++ (source.drop p).take position ++
        ((source.drop p).drop position).take length := by
    rw [List.take_add, List.take_add, List.append_assoc]
  have hbefore : (source.take p ++ (source.drop p).take position).length = position + p := by
    rw [List.length_append, List.length_take, List.length_take, List.length_drop]
    omega
  have hmiddle : (((source.drop p).drop position).take length).length = length := by
    rw [List.length_take, List.length_drop, List.length_drop]
    omega
  have hpos : position + p ≤ (source.take (p + (position + length)) ++ rest).length := by
    rw [List.length_append, List.length_take]
    omega
  rw [apply_eq_ok]
  constructor
  · exact hpos
  · rw [hsplit, splice_append _ _ _ _ hbefore hmiddle]
    simp

/-- With positions that are right, the replacements from `p` on change the source from
`p` on as a replacement from left to right does. -/
theorem replacedFrom_eq {regex : Regex} {source : Text} (hplace : FoundInPlace regex source)
    (f : List Text → Except Exception Text) {p : Nat} (hp : Scans regex source p) :
    replacedFrom regex f source p =
      (leftToRight regex f (source.drop p)).map (source.take p ++ ·) := by
  induction htext : source.drop p using regex.match_induction generalizing p with
  | none text hm =>
      subst htext
      rw [replacedFrom_none hm, leftToRight_none hm]
      simp [Except.map]
  | some text m hm ih =>
      subst htext
      have hnext := Scans.next hp hm
      have hrest := ih hnext (suffix_drop m source p).symm
      rw [replacedFrom_some hm, leftToRight_some hm, hrest, hplace p hp (by rw [hm]; rfl)]
      cases f m.groups with
      | error e => rfl
      | ok replacement =>
          cases leftToRight regex f (m.suffix (source.drop p)) with
          | error e => rfl
          | ok rest => exact apply_in_place hnext.le replacement rest

/-! ## disagreement -/

/-- A replacement that shows where it has been put in a text of up to `n` characters. -/
def mark (n : Nat) : List Text → Except Exception Text := fun _ => .ok (ruler (n + 1) 'x' 'y')

theorem leftToRight_mark (regex : Regex) (n : Nat) (text : Text) :
    ∃ result, leftToRight regex (mark n) text = .ok result := by
  induction text using regex.match_induction with
  | none text hm => exact ⟨text, leftToRight_none hm⟩
  | some text m hm ih =>
      obtain ⟨rest, hrest⟩ := ih
      rw [leftToRight_some hm, hrest]
      exact ⟨_, rfl⟩

/-- From `p` on, the marked source is what it should be. -/
def MarkedFrom (regex : Regex) (source : Text) (p : Nat) : Prop :=
  ∃ text, replacedFrom regex (mark source.length) source p = .ok text ∧
    leftToRight regex (mark source.length) (source.drop p) = .ok (text.drop p)

/-- If a marked source is right from `p` on, then the text from `p` on was found in its
place, and the source is right from the next search on. -/
theorem MarkedFrom.next {regex : Regex} {source : Text} {p : Nat} {m : RegexMatch}
    (h : MarkedFrom regex source p) (hp : Scans regex source p)
    (hm : regex.search (source.drop p) = some m) :
    find source (source.drop p) = p ∧ MarkedFrom regex source (p + (m.position + m.length)) := by
  obtain ⟨text, htext, hright⟩ := h
  obtain ⟨rest, hrest⟩ := leftToRight_mark regex source.length
    (source.drop (p + (m.position + m.length)))
  have hfind := find_drop_le source p
  have hple := hp.le
  have hwithin := regex.within hm
  rw [List.length_drop] at hwithin
  have htake : ((source.drop p).take m.position).length = m.position := by
    rw [List.length_take, List.length_drop]
    omega
  rw [leftToRight_some hm, suffix_drop, hrest] at hright
  rw [replacedFrom_some hm] at htext
  cases hafter : replacedFrom regex (mark source.length) source
      (p + (m.position + m.length)) with
  | error e => simp [hafter, mark, Except.bind] at htext
  | ok after =>
      rw [hafter] at htext
      obtain ⟨hpos, hsplice⟩ := apply_eq_ok.mp htext
      have hdrop : text.drop p = (source.drop p).take m.position ++
          ruler (source.length + 1) 'x' 'y' ++ rest := (Except.ok.inj hright).symm
      rw [← hsplice] at hdrop
      obtain ⟨hplace, hkept⟩ := splice_ruler (by decide) hpos (by dsimp only; omega)
        (by dsimp only; omega) hdrop
      dsimp only at hplace hkept
      rw [htake] at hplace
      rw [hplace, Nat.add_assoc] at hkept
      exact ⟨by omega, after, hafter, by rw [hrest, hkept]⟩

/-- **Transformation**: it is the replacement from left to right, for every replacement
function, exactly when every remaining text that has a match is found where it
stands. -/
theorem transform_eq_leftToRight_iff (regex : Regex) (source : Text) :
    EqualsLeftToRight regex source ↔ FoundInPlace regex source := by
  constructor
  · intro hequals p hp hsome
    have hstart : MarkedFrom regex source 0 := by
      obtain ⟨result, hresult⟩ := leftToRight_mark regex source.length source
      have hmark := hequals (mark source.length)
      rw [transform_eq, hresult] at hmark
      cases htext : replacedFrom regex (mark source.length) source 0 with
      | error e => simp [htext, Except.map] at hmark
      | ok text =>
          simp only [htext, Except.map, Except.ok.injEq, Prod.mk.injEq, and_true] at hmark
          exact ⟨text, htext, by simpa [hmark] using hresult⟩
    have hmarked : MarkedFrom regex source p := by
      induction hp with
      | start => exact hstart
      | next hp hm ih => exact ((ih (by rw [hm]; rfl)).next hp hm).2
    obtain ⟨m, hm⟩ := Option.isSome_iff_exists.mp hsome
    exact (hmarked.next hp hm).1
  · intro hplace f
    rw [transform_eq, replacedFrom_eq hplace f .start, List.drop_zero]
    cases leftToRight regex f source <;> rfl

/-- The regular expression that is one letter. -/
def letter (c : Char) : Regex where
  search text := if c ∈ text then some ⟨text.idxOf c, 1, []⟩ else none
  length_pos := by
    intro text m h
    split at h
    · cases h
      exact Nat.one_pos
    · cases h
  within := by
    intro text m h
    split at h
    next hmem =>
      cases h
      exact List.idxOf_lt_length_of_mem hmem
    next => cases h

/-- The second of two equal letters is replaced at the place of the first. -/
theorem letter_misplaced :
    transform (letter 'a') (fun _ => .ok ['x', 'y']) ['a', 'a'] =
        .ok (['x', 'y', 'y', 'a'], true) ∧
      leftToRight (letter 'a') (fun _ => .ok ['x', 'y']) ['a', 'a'] =
        .ok ['x', 'y', 'x', 'y'] ∧
      ¬ EqualsLeftToRight (letter 'a') ['a', 'a'] := by
  have hnew : transform (letter 'a') (fun _ => .ok ['x', 'y']) ['a', 'a'] =
      .ok (['x', 'y', 'y', 'a'], true) := by
    rw [transform_eq, replacedFrom_some (m := ⟨0, 1, []⟩) rfl,
      replacedFrom_some (m := ⟨0, 1, []⟩) rfl, replacedFrom_none rfl]
    rfl
  have hright : leftToRight (letter 'a') (fun _ => .ok ['x', 'y']) ['a', 'a'] =
      .ok ['x', 'y', 'x', 'y'] := by
    rw [leftToRight_some (m := ⟨0, 1, []⟩) rfl, leftToRight_some (m := ⟨0, 1, []⟩) rfl,
      leftToRight_none rfl]
    rfl
  refine ⟨hnew, hright, ?_⟩
  intro hequals
  have hsame := hequals fun _ => .ok ['x', 'y']
  rw [hnew, hright] at hsame
  simp [Except.map] at hsame

end Tzslc
end Topaz
