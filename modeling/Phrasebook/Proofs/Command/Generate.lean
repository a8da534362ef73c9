import Mathlib.Control.Monad.Basic
import Phrasebook.Command.Generate
import Phrasebook.Proofs.Generator.Batch
import Phrasebook.Proofs.Json.Written

/-! # All phrases or none, in either format

A request makes its phrases one after the other. If the dataset can be loaded, either all of them
are made or one fails behind those already made (`makes_or_failsBehind`). A run shows all phrases in
the first case and nothing but the error in the second, and both formats say the same
(`run_all_or_nothing`).
-/

namespace Phrasebook.Command

open Phrasebook.Json Phrasebook.Random

/-! ## What two runs have in common -/

/-- Both runs show the phrases, one as lines and the other as the list in an object. -/
structure ShowPhrases (text json : Outcome) (phrases : List String) : Prop where
  text_code : text.status.code = 0
  text_output : text.output = String.join (phrases.map (· ++ "\n"))
  json_code : json.status.code = 0
  json_output :
    (Reader.object (.list .string)).readAll json.output = .ok [("phrases", phrases)]

/-- Both runs end alike and print nothing. -/
structure PrintNothing (text json : Outcome) (code : Nat) : Prop where
  text_code : text.status.code = code
  text_output : text.output = ""
  json_code : json.status.code = code
  json_output : json.output = ""

/-- Both runs print nothing and tell the same error. -/
structure TellError (text json : Outcome) (message : String) : Prop
    extends PrintNothing text json 65 where
  text_notice : text.noticeText = "Generation error: " ++ message ++ "\n"
  json_notice : (Reader.object .string).readAll json.noticeText = .ok [("error", message)]

theorem lines_singleton (text : String) : lines [text] = text ++ "\n" := by
  simp [lines, String.join]

theorem readAll_line_errorValue (e : ExpandError) :
    (Reader.object .string).readAll ((errorValue e).toPretty ++ "\n") =
      .ok [("error", e.message)] :=
  Reader.readAll_pretty_line (Reader.undoes_prettyObject Reader.undoes_quote) [("error", e.message)]

theorem ExpandOptions.words_congr {o : ExpandOptions} {entropy entropy' : Words}
    (same : o.seed = none → entropy = entropy') : o.words entropy = o.words entropy' := by
  unfold ExpandOptions.words
  cases h : o.seed with
  | none => exact same h
  | some seed => rfl

variable {readFile : FileReader} {path : String} {act : Dataset → Outcome} {d : Dataset}

theorem withDataset_of_load (load : Dataset.load readFile path = .ok d) :
    withDataset readFile path act = act d := by
  rw [withDataset, load]

theorem withDataset_of_load_error {e : LoadError} (load : Dataset.load readFile path = .error e) :
    withDataset readFile path act =
      { status := loadStatus e, notices := [loadNotice readFile path e] } := by
  rw [withDataset, load]

theorem load_of_unreadable {reason : ReadFailure} (h : readFile path = .error reason) :
    Dataset.load readFile path = .error (.io path reason.detail) := by
  rw [Dataset.load, h]

theorem load_of_unparsable {content : String} {fault : Fault} (h : readFile path = .ok content)
    (bad : Dataset.ofJson content = .error fault) :
    Dataset.load readFile path =
      .error (.parse path (fault.position content) (fault.message content)) := by
  rw [Dataset.load, h]
  dsimp only
  rw [Dataset.parse, bad]

theorem load_of_parsable {content : String} (h : readFile path = .ok content)
    (good : Dataset.ofJson content = .ok d) : Dataset.load readFile path = .ok d := by
  rw [Dataset.load, h]
  dsimp only
  rw [Dataset.parse, good]

/-- A file is unreadable, unparsable or holds a dataset. -/
theorem load_cases (readFile : FileReader) (path : String) :
    (∃ reason, readFile path = .error reason) ∨
      (∃ content fault, readFile path = .ok content ∧ Dataset.ofJson content = .error fault) ∨
      ∃ d, Dataset.load readFile path = .ok d := by
  cases read : readFile path with
  | error reason => exact Or.inl ⟨reason, rfl⟩
  | ok content =>
      cases parse : Dataset.ofJson content with
      | error fault => exact Or.inr (Or.inl ⟨content, fault, rfl, parse⟩)
      | ok d => exact Or.inr (Or.inr ⟨d, load_of_parsable read parse⟩)

namespace GenerateRequest

/-! ## The phrases of a request -/

/-- The draw of one phrase. -/
def phrase (r : GenerateRequest) (d : Dataset) : Draw ExpandError String :=
  match r.template with
  | some index => (r.generator d).generateIndexed index
  | none => (r.generator d).generate

/-- All phrases are made. -/
def Makes (r : GenerateRequest) (d : Dataset) (s : Words) (phrases : List String) : Prop :=
  phrases.length = r.count ∧ ∃ rest, Generator.Produces (r.phrase d) s phrases rest

/-- Some phrases are made and the next one fails, though it is among those asked for. -/
def FailsBehind (r : GenerateRequest) (d : Dataset) (s : Words) (made : List String)
    (err : ExpandError) : Prop :=
  made.length < r.count ∧ ∃ mid rest, Generator.Produces (r.phrase d) s made mid ∧
    (r.phrase d).run mid = (.error err, rest)

variable {r : GenerateRequest} {s entropy entropy' : Words} {phrases made : List String} {err : ExpandError}

theorem phrases_eq (r : GenerateRequest) (d : Dataset) :
    r.phrases d = Generator.batch (r.phrase d) r.count := by
  unfold phrases phrase
  cases r.template with
  | none => rfl
  | some index => rfl

theorem makes_iff : r.Makes d s phrases ↔ ((r.phrases d).run s).1 = .ok phrases := by
  rw [phrases_eq]
  constructor
  · rintro ⟨length, rest, produces⟩
    rw [Generator.run_batch_ok_iff.mpr ⟨length, produces⟩]
  · intro h
    obtain ⟨length, produces⟩ := Generator.run_batch_ok_iff.mp (Prod.ext h rfl)
    exact ⟨length, _, produces⟩

theorem exists_failsBehind_iff :
    (∃ made, r.FailsBehind d s made err) ↔ ((r.phrases d).run s).1 = .error err := by
  rw [phrases_eq]
  constructor
  · rintro ⟨made, length, mid, rest, produces, fails⟩
    rw [Generator.run_batch_error_iff.mpr ⟨made, mid, length, produces, fails⟩]
  · intro h
    obtain ⟨made, mid, length, produces, fails⟩ :=
      Generator.run_batch_error_iff.mp (Prod.ext h rfl)
    exact ⟨made, length, mid, _, produces, fails⟩

theorem makes_or_failsBehind (r : GenerateRequest) (d : Dataset) (s : Words) :
    (∃ phrases, r.Makes d s phrases) ∨ ∃ made err, r.FailsBehind d s made err := by
  cases h : ((r.phrases d).run s).1 with
  | ok phrases => exact .inl ⟨phrases, makes_iff.mpr h⟩
  | error err =>
      obtain ⟨made, fails⟩ := exists_failsBehind_iff.mpr h
      exact .inr ⟨made, err, fails⟩

/-! ## The outcome of a request -/

theorem run_of_makes (load : Dataset.load readFile r.data = .ok d)
    (h : r.Makes d (r.options.words entropy) phrases) :
    r.run readFile entropy = { status := .success, output := print r.format phrases } := by
  rw [run, withDataset_of_load load, makes_iff.mp h]

theorem run_of_failsBehind (load : Dataset.load readFile r.data = .ok d)
    (h : r.FailsBehind d (r.options.words entropy) made err) :
    r.run readFile entropy = failure (r.format = .json) "Generation error" err := by
  rw [run, withDataset_of_load load, exists_failsBehind_iff.mp ⟨made, h⟩]

theorem readAll_print_json (phrases : List String) :
    (Reader.object (.list .string)).readAll (print .json phrases) = .ok [("phrases", phrases)] := by
  rw [print, lines_singleton]
  -- The phrases are elements of a list, one level inside the object.
  have undoes : (Reader.list .string).Undoes fun a => (Value.strings a).prettyAt 1 :=
    Reader.undoes_prettyList Reader.undoes_quote
  exact Reader.readAll_pretty_line (Reader.undoes_prettyObject undoes) [("phrases", phrases)]

theorem showPhrases (phrases : List String) :
    ShowPhrases { status := .success, output := print .text phrases }
      { status := .success, output := print .json phrases } phrases where
  text_code := rfl
  text_output := rfl
  json_code := rfl
  json_output := readAll_print_json phrases

theorem tellError (err : ExpandError) :
    TellError (failure false "Generation error" err) (failure true "Generation error" err)
      err.message where
  text_code := rfl
  text_output := rfl
  json_code := rfl
  json_output := rfl
  text_notice := by simp [failure, Outcome.noticeText, Notice.text, String.join]
  json_notice := by
    have notice : (failure true "Generation error" err).noticeText =
        (errorValue err).toPretty ++ "\n" := by
      simp [failure, Outcome.noticeText, Notice.text, String.join]
    rw [notice]
    exact readAll_line_errorValue err

theorem printNothing_of_load_error {e : LoadError} (load : Dataset.load readFile r.data = .error e) :
    PrintNothing ({ r with format := .text }.run readFile entropy)
      ({ r with format := .json }.run readFile entropy') (loadStatus e).code := by
  rw [run, run, withDataset_of_load_error load, withDataset_of_load_error load]
  exact ⟨rfl, rfl, rfl, rfl⟩

/-- A request shows all of its phrases or none, and both formats tell the same. The two runs take
their words from the same seed or, if there is none, are given the same words. -/
theorem run_all_or_nothing (r : GenerateRequest) (readFile : FileReader) (entropy entropy' : Words)
    (same : r.options.seed = none → entropy = entropy') :
    let text := { r with format := .text }.run readFile entropy
    let json := { r with format := .json }.run readFile entropy'
    let words := r.options.words entropy
    (∀ d, Dataset.load readFile r.data = .ok d →
      (∀ phrases, r.Makes d words phrases → ShowPhrases text json phrases) ∧
      (∀ made err, r.FailsBehind d words made err → TellError text json err.message) ∧
      ((∃ phrases, r.Makes d words phrases) ∨ ∃ made err, r.FailsBehind d words made err)) ∧
    (∀ reason, readFile r.data = .error reason → PrintNothing text json 66) ∧
    ∀ content fault, readFile r.data = .ok content → Dataset.ofJson content = .error fault →
      PrintNothing text json 65 := by
  intro text json words
  have words_json : r.options.words entropy' = words := by
    rw [← ExpandOptions.words_congr same]
  refine ⟨fun d load => ⟨?_, ?_, makes_or_failsBehind r d words⟩, ?_, ?_⟩
  · intro phrases h
    have text_eq : text = { status := .success, output := print .text phrases } :=
      run_of_makes load h
    have json_eq : json = { status := .success, output := print .json phrases } :=
      run_of_makes load (words_json ▸ h)
    rw [text_eq, json_eq]
    exact showPhrases phrases
  · intro made err h
    have text_eq : text = failure false "Generation error" err := run_of_failsBehind load h
    have json_eq : json = failure true "Generation error" err :=
      run_of_failsBehind load (words_json ▸ h)
    rw [text_eq, json_eq]
    exact tellError err
  · intro reason unreadable
    exact printNothing_of_load_error (load_of_unreadable unreadable)
  · intro content fault readable bad
    exact printNothing_of_load_error (load_of_unparsable readable bad)

/-- One of two candidates cannot be expanded. -/
def unlucky : Dataset := ⟨["[a]"], Assets.ofList [("a", ["x", "[b]"])]⟩

/-- Three phrases from the words of a seed. -/
def threePhrases (seed : UInt64) : GenerateRequest :=
  { data := "data.json", count := 3, options := { seed := some seed } }

/-- By the first seed `x` is drawn each time, by the second one only at first. -/
theorem run_all_or_nothing_unlucky :
    ShowPhrases
        ({ threePhrases 3 with format := .text }.run
          (fun _ => .ok unlucky.toValue.toCompact) (.ofArray #[1]))
        ({ threePhrases 3 with format := .json }.run
          (fun _ => .ok unlucky.toValue.toCompact) (.ofArray #[2]))
        ["x", "x", "x"] ∧
      TellError
        ({ threePhrases 8 with format := .text }.run
          (fun _ => .ok unlucky.toValue.toCompact) (.ofArray #[1]))
        ({ threePhrases 8 with format := .json }.run
          (fun _ => .ok unlucky.toValue.toCompact) (.ofArray #[2]))
        (ExpandError.placeholderNotFound "b" ["a"]).message := by
  have load : Dataset.load (fun _ => .ok unlucky.toValue.toCompact) "data.json" = .ok unlucky := by
    decide +kernel
  have all : (threePhrases 3).Makes unlucky (.ofSeed 3) ["x", "x", "x"] :=
    makes_iff.mpr (by decide +kernel)
  obtain ⟨made, fails⟩ : ∃ made, (threePhrases 8).FailsBehind unlucky (.ofSeed 8) made
      (.placeholderNotFound "b" ["a"]) := exists_failsBehind_iff.mpr (by decide +kernel)
  constructor
  · exact ((run_all_or_nothing (threePhrases 3) _ _ _ nofun).1 unlucky load).1 _ all
  · exact ((run_all_or_nothing (threePhrases 8) _ _ _ nofun).1 unlucky load).2.1 made _ fails

end GenerateRequest

end Phrasebook.Command
