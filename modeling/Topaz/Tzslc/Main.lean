import Topaz.Core.Version
import Topaz.Tzslc.Preprocessor

/-!
# Topaz.Tzslc.Main

The command line of `tzslc`: `tzslc shader [-m<module>]... [-o output]...`.

The output files are opened, and so emptied, before the shader is read.  Of several of them
the last is written to, the others are left empty; a shader that is among them, under whatever
name, is lost.
What is written is the preprocessed source up to its first null character.
-/

namespace Topaz
namespace Tzslc

/-! ## the arguments -/

/-- `preprocessor_module_names`. -/
def PreprocessorModule.name : PreprocessorModule → Text
  | .sampler => "sampler".toList

/-- From `Begin` to `End`. -/
def PreprocessorModule.list : List PreprocessorModule := [.sampler]

/-- `PreprocessorModuleField::All`. -/
def allModules : EnumField PreprocessorModule :=
  PreprocessorModule.list.foldl EnumField.insert ⟨[]⟩

/-- The loop of `selected_modules`, with the modules so far. -/
def selectModules (modules : EnumField PreprocessorModule) :
    List Text → EnumField PreprocessorModule
  | [] => modules
  | arg :: args =>
      match "-m".toList.isPrefixOf? arg with
      | none => selectModules modules args
      | some name =>
          let named := PreprocessorModule.list.foldl
            (fun field m => if name = m.name then field.insert m else field) modules
          if name = "all".toList then allModules else selectModules named args

def selectedModules (args : List Text) : EnumField PreprocessorModule := selectModules ⟨[]⟩ args

/-- A file, or the place for one. -/
abbrev File := Nat

/-- Where each name leads to (`a` and `./a` to the same file), the contents of the files that
exist, and the names that `fopen` can open for writing. -/
structure Files where
  fileOf : Text → File
  contents : File → Option Text
  creatable : Text → Bool

/-- A `FILE*`. -/
inductive Output where
  | stdout
  | file (file : File)
  | null
deriving DecidableEq, Repr

/-- `fopen(name, "w")`. -/
def Files.openForWriting (files : Files) (name : Text) : Files × Output :=
  if files.creatable name then
    ({ files with contents := Function.update files.contents (files.fileOf name) (some []) },
      .file (files.fileOf name))
  else (files, .null)

/-- What a `std::ifstream` reads. -/
def Files.read (files : Files) (name : Text) : Option Text := files.contents (files.fileOf name)

/-- `get_output_stream`: every `-o` opens the argument behind it. -/
def getOutputStream (files : Files) (argv : List Text) : Files × Output :=
  (argv.zip argv.tail).foldl
    (fun s x => if x.1 = "-o".toList then s.1.openForWriting x.2 else s) (files, .stdout)

/-! ## the program -/

inductive Outcome where
  | success
  | assertion
  | exception (e : Exception)
  /-- a write through a null pointer -/
  | crash
deriving DecidableEq, Repr

/-- What a run leaves. -/
structure Run where
  files : Files
  stdout : Text
  outcome : Outcome

/-- What `%s` prints of a buffer. -/
def cString (buffer : Text) : Text := buffer.takeWhile (· ≠ '\x00')

def printTo (files : Files) (buffer : Text) : Output → Run
  | .stdout => ⟨files, cString buffer, .success⟩
  | .file file =>
      ⟨{ files with contents := Function.update files.contents file (some (cString buffer)) }, [],
        .success⟩
  | .null => ⟨files, [], .crash⟩

def main (api : RenderApi) (files : Files) (argv : List Text) : Run :=
  match argv with
  | _ :: glslFilename :: args =>
      let modules := selectedModules args
      let (files, out) := getOutputStream files argv
      match files.read glslFilename with
      | none => ⟨files, [], .assertion⟩
      | some buffer =>
          match preprocess api modules buffer with
          | .error e => ⟨files, [], .exception e⟩
          | .ok (buffer, _) => printTo files buffer out
  | _ => ⟨files, [], .assertion⟩

/-! ## modules that are selected -/

/-- `-msampler` or `-mall` is among the arguments. -/
def SelectsSampler (args : List Text) : Prop :=
  "-msampler".toList ∈ args ∨ "-mall".toList ∈ args

theorem selectsSampler_cons {arg : Text} {args : List Text} : SelectsSampler (arg :: args) ↔
    arg = "-msampler".toList ∨ arg = "-mall".toList ∨ SelectsSampler args := by
  simp only [SelectsSampler, List.mem_cons, eq_comm (a := arg)]
  tauto

/-- An argument `-m` is one of those for the sampler module if its name is. -/
theorem append_name_eq {arg name : Text} (h : "-m".toList.isPrefixOf? arg = some name) :
    (arg = "-msampler".toList ↔ name = PreprocessorModule.sampler.name) ∧
      (arg = "-mall".toList ↔ name = "all".toList) := by
  have happend : ∀ text : Text, arg = "-m".toList ++ text ↔ name = text := by
    intro text
    rw [← List.isPrefixOf?_eq_some_iff_append_eq.mp h, List.append_cancel_left_eq]
  exact ⟨happend "sampler".toList, happend "all".toList⟩

theorem contains_selectModules (args : List Text) (modules : EnumField PreprocessorModule) :
    (selectModules modules args).contains .sampler = true ↔
      modules.contains .sampler = true ∨ SelectsSampler args := by
  induction args generalizing modules with
  | nil => simp [selectModules, SelectsSampler]
  | cons arg args ih =>
      rw [selectsSampler_cons, selectModules]
      cases hm : "-m".toList.isPrefixOf? arg with
      | none =>
          have hsampler : arg ≠ "-msampler".toList := by
            rintro rfl
            cases hm
          have hall : arg ≠ "-mall".toList := by
            rintro rfl
            cases hm
          simp only [ih, hsampler, hall, false_or]
      | some name =>
          obtain ⟨hsampler, hall⟩ := append_name_eq hm
          simp only [hsampler, hall, PreprocessorModule.list, List.foldl_cons, List.foldl_nil]
          by_cases hname : name = "all".toList
          · simp only [hname, if_true, true_or, or_true, iff_true]
            decide
          · rw [if_neg hname, ih]
            by_cases hs : name = PreprocessorModule.sampler.name
            · simp [hs]
            · simp only [hs, hname, if_false, false_or]

theorem contains_selectedModules (args : List Text) :
    (selectedModules args).contains .sampler = true ↔ SelectsSampler args := by
  rw [selectedModules, contains_selectModules]
  simp [EnumField.contains]

/-! ## files that are opened -/

/-- The arguments behind an `-o`. -/
def outputTargets (argv : List Text) : List Text :=
  (argv.zip argv.tail).filterMap fun x => if x.1 = "-o".toList then some x.2 else none

/-- The files they lead to. -/
def outputFiles (files : Files) (argv : List Text) : List File :=
  (outputTargets argv).map files.fileOf

/-- Files after some of them have been emptied. -/
def Files.emptied (files : Files) (opened : List File) : Files :=
  { files with contents := fun file => if file ∈ opened then some [] else files.contents file }

/-- The stream to the last of some files. -/
def lastOutput (opened : List File) : Output := (opened.getLast?.map Output.file).getD .stdout

theorem Files.openForWriting_emptied {files : Files} {opened : List File} {name : Text}
    (h : (files.emptied opened).creatable name = true) :
    (files.emptied opened).openForWriting name =
      (files.emptied (opened ++ [files.fileOf name]),
        lastOutput (opened ++ [files.fileOf name])) := by
  rw [openForWriting, if_pos h, lastOutput, List.getLast?_append]
  simp only [emptied, List.getLast?_singleton, Option.some_or, Option.map_some, Option.getD_some,
    Prod.mk.injEq, and_true, Files.mk.injEq, true_and]
  funext other
  by_cases heq : other = files.fileOf name
  · simp [heq]
  · simp [heq]

/-- The loop of `get_output_stream`, after some files have been opened. -/
theorem foldl_openForWriting {files : Files} (pairs : List (Text × Text)) (opened : List File)
    (h : ∀ x ∈ pairs, x.1 = "-o".toList → files.creatable x.2 = true) :
    pairs.foldl (fun s x => if x.1 = "-o".toList then s.1.openForWriting x.2 else s)
        (files.emptied opened, lastOutput opened) =
      (files.emptied (opened ++ (pairs.filterMap fun x =>
          if x.1 = "-o".toList then some x.2 else none).map files.fileOf),
        lastOutput (opened ++ (pairs.filterMap fun x =>
          if x.1 = "-o".toList then some x.2 else none).map files.fileOf)) := by
  induction pairs generalizing opened with
  | nil => simp
  | cons x pairs ih =>
      have hrest := fun y hy => h y (List.mem_cons_of_mem x hy)
      rw [List.foldl_cons, List.filterMap_cons]
      by_cases hx : x.1 = "-o".toList
      · simp only [hx, if_true]
        rw [Files.openForWriting_emptied (h x List.mem_cons_self hx),
          ih (opened ++ [files.fileOf x.2]) hrest]
        simp
      · simp only [hx, if_false]
        exact ih opened hrest

theorem getOutputStream_eq {files : Files} {argv : List Text}
    (h : ∀ name ∈ outputTargets argv, files.creatable name = true) :
    getOutputStream files argv =
      (files.emptied (outputFiles files argv), lastOutput (outputFiles files argv)) := by
  have hpairs : ∀ x ∈ argv.zip argv.tail, x.1 = "-o".toList → files.creatable x.2 = true :=
    fun x hx harg => h x.2 (List.mem_filterMap.mpr ⟨x, hx, if_pos harg⟩)
  have hstart : (files.emptied [], lastOutput []) = (files, Output.stdout) := rfl
  have hrun := foldl_openForWriting (argv.zip argv.tail) [] hpairs
  rwa [hstart, List.nil_append] at hrun

/-! ## what a run leaves -/

/-- Only the last of the emptied files is written to; without any, standard output is. -/
theorem printTo_lastOutput (files : Files) (opened : List File) (buffer : Text) {run : Run}
    (hrun : printTo (files.emptied opened) buffer (lastOutput opened) = run) :
    run.outcome = .success ∧ run.stdout = (if opened = [] then cString buffer else []) ∧
      ∀ file, run.files.contents file =
        if opened.getLast? = some file then some (cString buffer)
        else if file ∈ opened then some [] else files.contents file := by
  subst hrun
  cases hlast : opened.getLast? with
  | none =>
      obtain rfl := List.getLast?_eq_none_iff.mp hlast
      exact ⟨rfl, rfl, fun file => rfl⟩
  | some last =>
      have hne : opened ≠ [] := by
        rintro rfl
        cases hlast
      have hout : lastOutput opened = .file last := by rw [lastOutput, hlast]; rfl
      rw [hout]
      refine ⟨rfl, (if_neg hne).symm, fun file => ?_⟩
      by_cases heq : file = last
      · simp [printTo, heq]
      · simp [printTo, Function.update_of_ne heq, Ne.symm heq, Files.emptied]

/-- What the preprocessor makes of a shader, if the text behind each declaration is found in
its place and the numbers fit an `int`. -/
theorem preprocess_selectedModules (api : RenderApi) {args : List Text} {text : Text}
    (h : SelectsSampler args → FoundInPlace samplerRegex text ∧
      ∀ digits, OccursIn digits text → Nat.ofDigitChars 10 digits 0 ≤ 2147483647) :
    ∃ result, preprocess api (selectedModules args) text = .ok (result, false) ∧
      (SelectsSampler args → Replaced api text result ∧ ¬ HasSampler result) ∧
      (¬ SelectsSampler args → result = text) := by
  by_cases hselects : SelectsSampler args
  · obtain ⟨hplace, hfits⟩ := h hselects
    obtain ⟨result, hresult, hreplaced, hnone, -⟩ := preprocess_replaces
      ((contains_selectedModules args).mpr hselects) hplace hfits
    exact ⟨result, hresult, fun _ => ⟨hreplaced, hnone⟩, fun hnot => absurd hselects hnot⟩
  · have hmodule : (selectedModules args).contains .sampler = false := by
      rw [← Bool.not_eq_true, contains_selectedModules]
      exact hselects
    exact ⟨text, preprocess_of_not_contains hmodule, fun hs => absurd hs hselects, fun _ => rfl⟩

theorem main_eq {api : RenderApi} {files : Files} {tool source : Text} {args : List Text}
    {buffer result : Text} {done : Bool}
    (hcreate : ∀ name ∈ outputTargets (tool :: source :: args), files.creatable name = true)
    (hread : (files.emptied (outputFiles files (tool :: source :: args))).read source =
      some buffer)
    (hresult : preprocess api (selectedModules args) buffer = .ok (result, done)) :
    main api files (tool :: source :: args) =
      printTo (files.emptied (outputFiles files (tool :: source :: args))) result
        (lastOutput (outputFiles files (tool :: source :: args))) := by
  simp only [main, getOutputStream_eq hcreate, hread, hresult]

/-- **The tool**: a run with outputs that can be created succeeds.  It leaves the preprocessed
shader, up to its first null character, in the last output, or on standard output if there is
none, leaves the other outputs empty, and touches no other file; but if the shader is itself an
output, under this or another name, it is lost, and all outputs are empty. -/
theorem tzslc_writes_output (api : RenderApi) (files : Files) (tool source : Text)
    (args : List Text) (text : Text)
    (hcreate : ∀ name ∈ outputTargets (tool :: source :: args), files.creatable name = true)
    (hsource : files.read source = some text)
    (hmodule : SelectsSampler args → FoundInPlace samplerRegex text ∧
      ∀ digits, OccursIn digits text → Nat.ofDigitChars 10 digits 0 ≤ 2147483647) :
    (main api files (tool :: source :: args)).outcome = .success ∧
    (files.fileOf source ∈ outputFiles files (tool :: source :: args) →
      (main api files (tool :: source :: args)).stdout = [] ∧
      ∀ file, (main api files (tool :: source :: args)).files.contents file =
        if file ∈ outputFiles files (tool :: source :: args) then some []
        else files.contents file) ∧
    (files.fileOf source ∉ outputFiles files (tool :: source :: args) → ∃ result,
      (SelectsSampler args → Replaced api text result ∧ ¬ HasSampler result) ∧
      (¬ SelectsSampler args → result = text) ∧
      (main api files (tool :: source :: args)).stdout =
        (if outputFiles files (tool :: source :: args) = [] then cString result else []) ∧
      ∀ file, (main api files (tool :: source :: args)).files.contents file =
        if (outputFiles files (tool :: source :: args)).getLast? = some file then
          some (cString result)
        else if file ∈ outputFiles files (tool :: source :: args) then some []
        else files.contents file) := by
  have hmain := @main_eq api files tool source args
  generalize outputFiles files (tool :: source :: args) = opened at hmain ⊢
  by_cases htarget : files.fileOf source ∈ opened
  · -- the shader is empty by the time it is read
    have hrun := hmain hcreate (if_pos htarget) (preprocess_of_not_hasSampler not_hasSampler_nil)
    obtain ⟨hsuccess, hstdout, hfiles⟩ := printTo_lastOutput files opened [] hrun.symm
    refine ⟨hsuccess, fun _ => ⟨?_, fun file => ?_⟩, fun hnot => absurd htarget hnot⟩
    · rw [hstdout, if_neg (List.ne_nil_of_mem htarget)]
    · rw [hfiles]
      by_cases hlast : opened.getLast? = some file
      · rw [if_pos hlast, if_pos (List.mem_of_getLast? hlast)]
        rfl
      · rw [if_neg hlast]
  · obtain ⟨result, hresult, hselects, hnot⟩ := preprocess_selectedModules api hmodule
    have hrun := hmain hcreate ((if_neg htarget).trans hsource) hresult
    obtain ⟨hsuccess, hstdout, hfiles⟩ := printTo_lastOutput files opened result hrun.symm
    exact ⟨hsuccess, fun h => absurd h htarget, fun _ => ⟨result, hselects, hnot, hstdout, hfiles⟩⟩

/-- Shaders that end in something of their own: what follows the last declaration occurs
nowhere else. -/
theorem foundInPlace_of_ending {front ending : Text} (hnone : ¬ HasSampler ending)
    (honce : ∀ p, ending <+: (front ++ ending).drop p → p = front.length) :
    FoundInPlace samplerRegex (front ++ ending) := by
  intro p _ hsome
  have hhas : HasSampler ((front ++ ending).drop p) := by
    by_contra hnot
    rw [show samplerRegex.search = samplerSearch from rfl, samplerSearch_eq_none.mpr hnot] at hsome
    cases hsome
  -- the search starts before the ending
  have hp : p ≤ front.length := by
    by_contra hgt
    rw [List.drop_append, List.drop_eq_nil_of_le (Nat.le_of_not_le hgt), List.nil_append] at hhas
    obtain ⟨digits, hnumber, before, after, heq⟩ := hhas
    refine hnone ⟨digits, hnumber, ending.take (p - front.length) ++ before, after, ?_⟩
    rw [List.append_assoc, ← heq, List.take_append_drop]
  have hlength : p ≤ (front ++ ending).length := by
    rw [List.length_append]
    omega
  obtain ⟨rest, hrest⟩ := prefix_drop_find hlength
  rw [List.drop_append_of_le_length hp] at hrest
  -- wherever the rest of the shader is found, the ending is found behind it
  have hending : ending <+: (front ++ ending).drop
      (find (front ++ ending) (front.drop p ++ ending) + (front.length - p)) := by
    refine ⟨rest, ?_⟩
    rw [← List.drop_drop, ← hrest, List.append_assoc, ← List.length_drop, List.drop_left]
  have hplace := honce _ hending
  rw [List.drop_append_of_le_length hp]
  omega

/-- The numbers of a short shader fit an `int`. -/
theorem ofDigitChars_le_of_length {text : Text} (hshort : text.length ≤ 31) {digits : Text}
    (h : OccursIn digits text) : Nat.ofDigitChars 10 digits 0 ≤ 2147483647 := by
  obtain ⟨⟨-, hdigits⟩, before, after, rfl⟩ := h
  have hhead : samplerHead.length = 21 := rfl
  simp only [samplerUniform, List.length_append, List.length_singleton, hhead] at hshort
  have hlength : digits.length ≤ 9 := by omega
  have hlt := Core.ofDigitChars_lt hdigits
  have hpow : 10 ^ digits.length ≤ 10 ^ 9 := Nat.pow_le_pow_right (by decide) hlength
  omega

/-- A directory with one shader, `a`, which is also `./a`. -/
def oneShader (text : Text) : Files where
  fileOf name := if name = ['a'] ∨ name = "./a".toList then 0 else 1
  contents file := if file = 0 then some text else none
  creatable _ := true

/-- A sampler, preprocessed into another file. -/
theorem tzslc_writes_oneShader : ∃ result,
    Replaced .vulkan ("tz_sampler2D_uniform(3) s".toList ++ [';']) result ∧
    (main .vulkan (oneShader ("tz_sampler2D_uniform(3) s".toList ++ [';']))
      ["tzslc".toList, ['a'], "-msampler".toList, "-o".toList, ['b']]).files.contents 1 =
        some (cString result) := by
  have hplace : FoundInPlace samplerRegex ("tz_sampler2D_uniform(3) s".toList ++ [';']) := by
    refine foundInPlace_of_ending (samplerSearch_eq_none.mp rfl) fun p hp => ?_
    have hlt : p < 26 := by
      have hlength := hp.length_le
      rw [List.length_drop] at hlength
      simp at hlength
      omega
    have hall : ∀ p < 26, [';'] <+: ("tz_sampler2D_uniform(3) s".toList ++ [';']).drop p →
        p = "tz_sampler2D_uniform(3) s".toList.length := by decide
    exact hall p hlt hp
  obtain ⟨-, -, hrun⟩ := tzslc_writes_output .vulkan
    (oneShader ("tz_sampler2D_uniform(3) s".toList ++ [';'])) "tzslc".toList ['a']
    ["-msampler".toList, "-o".toList, ['b']] ("tz_sampler2D_uniform(3) s".toList ++ [';'])
    (fun _ _ => rfl) rfl
    (fun _ => ⟨hplace, fun digits hd => ofDigitChars_le_of_length (by decide) hd⟩)
  obtain ⟨result, hselects, -, -, hfiles⟩ := hrun (by decide)
  exact ⟨result, (hselects (Or.inl (by decide))).1, (hfiles 1).trans rfl⟩

/-- A shader that is preprocessed into itself. -/
example : (main .ogl (oneShader "void main(){}".toList)
    ["tzslc".toList, ['a'], "-o".toList, "./a".toList]).files.contents 0 = some [] := by
  decide

end Tzslc
end Topaz
