import ClientGen.Job.Script
import ClientGen.Proofs.Quoting

/-! The words a shell reads in the generator's command: the launcher, then each option with its
value as one word, whatever text the values are. A line end in the command is continued, so it
parts words as a blank does. -/

namespace ClientGen

namespace Shell

theorem readWords_blank (rest : List Char) :
    readWords .bare none (' ' :: rest) = readWords .bare none rest := by
  rw [readWords_space]
  simp

theorem readWords_continued (word : Option (List Char)) (rest : List Char) :
    readWords .bare word ('\\' :: '\n' :: rest) = readWords .bare word rest := by
  rw [readWords.eq_def]
  simp [isSpace]

theorem separates_lineBreak : Separates Job.lineBreak.toList := by
  intro word rest
  have spelt : Job.lineBreak.toList = [' ', '\\', '\n', ' ', ' ', ' ', ' '] := by decide
  rw [spelt]
  simp only [List.cons_append, List.nil_append]
  rw [readWords_space, readWords_continued]
  simp only [readWords_blank, Option.toList_some, List.singleton_append]

end Shell

namespace Job

theorem wordGroups_ne_nil (j : Job) : ∀ group ∈ j.wordGroups, group ≠ [] := by
  intro group mem
  simp only [wordGroups, List.mem_append] at mem
  rcases mem with ((((launch | properties) | templates) | hook) | additional) | options
  · rintro rfl
    simp at launch
  · split at properties <;> simp_all
  · split at templates <;> simp_all
  · split at hook <;> simp_all
  · split at additional <;> simp_all
  · rintro rfl
    simp at options

theorem toList_script (j : Job) :
    j.script.toList = lineBreak.toList.intercalate
      ((j.wordGroups.map (·.map String.toList)).map fun group =>
        [' '].intercalate (group.map Shell.quoteChars)) := by
  simp [script, String.toList_intercalate, Shell.quote, Function.comp_def]

/-- A shell reads the command as the words it is made of. -/
theorem spells_script (j : Job) :
    Shell.Spells j.script.toList (j.words.map String.toList) := by
  rw [toList_script, words, List.map_flatten]
  refine Shell.spells_intercalate Shell.separates_lineBreak ?_ (by simp [wordGroups])
  rw [List.forall₂_map_left_iff, List.forall₂_same]
  intro group mem
  obtain ⟨texts, listed, rfl⟩ := List.mem_map.1 mem
  exact Shell.spells_quoted _ (by simpa using j.wordGroups_ne_nil texts listed)

theorem words?_eq (j : Job) : Shell.words? j.script = some j.words := by
  rw [Shell.words?, j.spells_script.readWords_eq]
  simp [Function.comp_def]

theorem words_of_request {j k : Job} {root : Path} (same : j.request root = k.request root) :
    j.words = k.words := by
  have read := congrArg (fun r => Shell.words? r.command) same
  simpa only [request, words?_eq, Option.some.injEq] using read

/-- For every launcher and every invocation, whatever texts they are made of, a shell reads the
command as a plain one, and its words are the launcher's and then the options in their order, each
value a word of its own. -/
theorem words?_script (j : Job) :
    Shell.words? j.script = some (
      [j.launcher.program, "-cp", ":".intercalate j.launcher.classpath, j.launcher.mainClass,
        "generate"] ++
      (if j.invocation.generateDocs = true ∧ j.invocation.generateTests = true then [] else
        ["--global-property", propertyList j.invocation.switchedOff]) ++
      (j.invocation.templateDir.elim [] fun dir => ["--template-dir", dir.text]) ++
      (if j.invocation.postProcess.isSome = true then ["--enable-post-process-file"] else []) ++
      (if j.invocation.additionalProperties.entries = [] then [] else
        ["--additional-properties", propertyList j.invocation.additionalProperties.entries]) ++
      ["-e", j.invocation.engine, "--model-package", j.invocation.modelPackage,
        "--api-package", j.invocation.apiPackage, "--package-name", j.invocation.packageName,
        "-g", j.invocation.generatorName, "-o", j.invocation.outputDir.text,
        "-i", j.invocation.inputSpec.text]) := by
  have properties : j.invocation.switchedOff = [] ↔
      j.invocation.generateDocs = true ∧ j.invocation.generateTests = true := by
    cases docs : j.invocation.generateDocs <;> cases tests : j.invocation.generateTests <;>
      simp [Invocation.switchedOff, docs, tests]
  have hook :
      (if j.invocation.hasHook = true then [["--enable-post-process-file"]] else []).flatten =
        if j.invocation.postProcess.isSome = true then ["--enable-post-process-file"] else [] := by
    cases given : j.invocation.postProcess <;> simp [Invocation.hasHook, given]
  rw [words?_eq, words, wordGroups]
  simp only [List.flatten_append, hook, properties, Text.Dictionary.isEmpty, List.isEmpty_iff,
    apply_ite List.flatten]
  cases j.invocation.templateDir <;> rfl

end Job

end ClientGen
