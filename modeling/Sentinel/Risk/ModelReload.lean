import Mathlib.Data.List.Basic
import Mathlib.Data.Rat.Defs
import Sentinel.Semantics.Machine

/-!
# Publication, reload and use of the fraud model

`train_model` publishes a version by removing the link `current` and creating
it anew. `load_model` clears the loaded flag when it finds no model there, and
assigns the booster and its explainer one after the other, while `score` reads
the two on other threads.
-/

namespace Sentinel.Risk

open Sentinel.Semantics

/-- A version's `model.lgb`, while it is written and after. -/
inductive ModelFile (Model : Type) where
  | truncated
  | complete (model : Model)

/-- The directory `MODELS_ROOT`. -/
structure ModelsRoot (Model : Type) where
  files : String → Option (ModelFile Model)
  /-- The version that the link `current` names. -/
  current : Option String

inductive TrainingStage where
  | trained
  | directoryMade
  | saving
  | modelSaved
  | namesSaved
  | metricsSaved
  | removing
  | linking
  | published
  | crashed
deriving DecidableEq

/-- The publishing part of a run of `train_model`. -/
structure Training (Model : Type) where
  version : String
  model : Model
  stage : TrainingStage

/-- The fields of `LightGBMScorer` that change. -/
structure LightGBMScorer (Model : Type) where
  model : Option Model
  /-- The model that the explainer was made for. -/
  explainer : Option Model
  modelVersion : String
  modelLoaded : Bool

/-- Where a call of `load_model` stands. -/
inductive LoadPhase (Model : Type) where
  | ready
  | opening
  /-- The booster is read, the explainer and the warm-up are to come. -/
  | warming (model : Model)
  | settingModel (model : Model)
  | settingExplainer (model : Model)
  | settingVersion
  | settingLoaded
  | clearing
  | done

/-- Where a call of `score` stands. -/
inductive ScorePhase (Model Features : Type) where
  | ready (features : Features)
  | checking (features : Features)
  | predicting (features : Features)
  /-- The probability calls for an explanation. -/
  | explaining (model : Model)
  | valuing (model : Model)
  /-- The model-missing branch: 0.0, or an error unless the engine fails open. -/
  | missing
  /-- A field was `None` when it was used. -/
  | raised
  /-- The model of the probability and the one of the SHAP values, if any. -/
  | scored (predicted : Model) (explained : Option Model)
deriving DecidableEq

structure ModelServing (Model Features : Type) where
  root : ModelsRoot Model
  trainings : List (Training Model)
  scorer : LightGBMScorer Model
  loads : List (LoadPhase Model)
  scores : List (ScorePhase Model Features)

inductive ServingLabel where
  | train (training : Nat)
  | crash (training : Nat)
  /-- The next step of a load, in which the libraries may raise. -/
  | load (call : Nat) (raises : Bool)
  | score (call : Nat)

variable {Model Features : Type}

namespace ModelsRoot

/-- What is at `MODEL_PATH`, which leads through `current`. -/
def modelFile (root : ModelsRoot Model) : Option (ModelFile Model) :=
  root.current.bind root.files

def write (root : ModelsRoot Model) (version : String) (file : ModelFile Model) :
    ModelsRoot Model :=
  { root with files := Function.update root.files version (some file) }

end ModelsRoot

/-- The next step of a training, with the directory it leaves. -/
def Training.step (training : Training Model) (root : ModelsRoot Model) :
    Option (TrainingStage × ModelsRoot Model) :=
  match training.stage with
  | .trained => some (.directoryMade, root)
  | .directoryMade => some (.saving, root.write training.version .truncated)
  | .saving => some (.modelSaved, root.write training.version (.complete training.model))
  | .modelSaved => some (.namesSaved, root)
  | .namesSaved => some (.metricsSaved, root)
  | .metricsSaved => some (if root.current.isSome then .removing else .linking, root)
  | .removing =>
      if root.current.isSome then some (.linking, { root with current := none })
      else some (.crashed, root)
  | .linking =>
      if root.current.isNone then some (.published, { root with current := training.version })
      else some (.crashed, root)
  | .published | .crashed => none

def Training.crash (training : Training Model) : Option TrainingStage :=
  if training.stage = .published ∨ training.stage = .crashed then none else some .crashed

/-- The next step of `load_model`, which is all that `hot_reload` does. -/
def LoadPhase.step (root : ModelsRoot Model) (raises : Bool) (scorer : LightGBMScorer Model) :
    LoadPhase Model → Option (LoadPhase Model × LightGBMScorer Model)
  | .ready => some (if root.modelFile.isSome then .opening else .clearing, scorer)
  | .opening =>
      match root.modelFile, raises with
      | some (.complete model), false => some (.warming model, scorer)
      | _, _ => some (.clearing, scorer)
  | .warming model => some (if raises then .clearing else .settingModel model, scorer)
  | .settingModel model => some (.settingExplainer model, { scorer with model := some model })
  | .settingExplainer model => some (.settingVersion, { scorer with explainer := some model })
  | .settingVersion => some (.settingLoaded, { scorer with modelVersion := "current" })
  | .settingLoaded => some (.done, { scorer with modelLoaded := true })
  | .clearing => some (.done, { scorer with modelLoaded := false })
  | .done => none

/-- The next step of `score`; `predict` is the booster's probability. -/
def ScorePhase.step (predict : Model → Features → ℚ) (scorer : LightGBMScorer Model) :
    ScorePhase Model Features → Option (ScorePhase Model Features)
  | .ready features => some (if scorer.modelLoaded then .checking features else .missing)
  | .checking features => some (if scorer.model.isNone then .missing else .predicting features)
  | .predicting features =>
      match scorer.model with
      | none => some .raised
      | some model =>
          some (if 40 < predict model features * 100 then .explaining model
            else .scored model none)
  | .explaining model =>
      some (if scorer.explainer.isSome then .valuing model else .scored model none)
  | .valuing model =>
      match scorer.explainer with
      | none => some .raised
      | some explainer => some (.scored model (some explainer))
  | .missing | .raised | .scored _ _ => none

def ModelServing.step (predict : Model → Features → ℚ) (serving : ModelServing Model Features) :
    ServingLabel → Option (ModelServing Model Features)
  | .train index => serving.trainings[index]?.bind fun training =>
      (training.step serving.root).map fun (stage, root) =>
        { serving with root, trainings := serving.trainings.set index { training with stage } }
  | .crash index => serving.trainings[index]?.bind fun training =>
      training.crash.map fun stage =>
        { serving with trainings := serving.trainings.set index { training with stage } }
  | .load call raises => serving.loads[call]?.bind fun phase =>
      (phase.step serving.root raises serving.scorer).map fun (phase, scorer) =>
        { serving with scorer, loads := serving.loads.set call phase }
  | .score call => serving.scores[call]?.bind fun phase =>
      (phase.step predict serving.scorer).map fun phase =>
        { serving with scores := serving.scores.set call phase }

/-- Trainings, loads and score calls on one models directory and one scorer. -/
def modelServing (predict : Model → Features → ℚ) :
    Machine (ModelServing Model Features) ServingLabel :=
  ⟨ModelServing.step predict⟩

/-- The call ran with a loaded model, and its SHAP values are of the model that
gave its probability. -/
def ScorePhase.Consistent : ScorePhase Model Features → Prop
  | .missing | .raised => False
  | .scored predicted (some explained) => explained = predicted
  | _ => True

namespace ModelServing

def ScoresConsistently (serving : ModelServing Model Features) : Prop :=
  ∀ call ∈ serving.scores, call.Consistent

/-- A model has been loaded; no other load and no score call has begun. -/
structure Loaded (serving : ModelServing Model Features) : Prop where
  loaded : serving.scorer.modelLoaded = true
  model : serving.scorer.model.isSome
  explainer : serving.scorer.explainer = serving.scorer.model
  loads : ∀ load ∈ serving.loads, load = .ready
  scores : ∀ call ∈ serving.scores, ∃ features, call = .ready features

end ModelServing

/-- The model whose explainer the call is going to read. -/
def ScorePhase.awaited : ScorePhase Model Features → Option Model
  | .explaining model | .valuing model => some model
  | _ => none

/-- The load has assigned the booster but not yet its explainer. -/
def LoadPhase.swapping : LoadPhase Model → Bool
  | .settingExplainer _ => true
  | _ => false

namespace ModelServing

/-- No load is between its two assignments. -/
def Settled (serving : ModelServing Model Features) : Prop :=
  ∀ load ∈ serving.loads, load.swapping = false

/-- A load finds a complete model behind `current` when it checks and when it
opens the file, and the libraries do not raise. It assigns the booster while no
other load is between its two assignments and no call is going to read the
explainer. A call predicts what it will explain while no load is between its
two assignments. -/
def Undisturbed (predict : Model → Features → ℚ) (serving : ModelServing Model Features) :
    ServingLabel → Prop
  | .train _ | .crash _ => True
  | .load call raises => ∀ phase, serving.loads[call]? = some phase →
      match phase with
      | .ready => serving.root.modelFile.isSome
      | .opening => raises = false ∧ ∃ model, serving.root.modelFile = some (.complete model)
      | .warming _ => raises = false
      | .settingModel _ => serving.Settled ∧ ∀ call ∈ serving.scores, call.awaited = none
      | _ => True
  | .score call => ∀ features model, serving.scores[call]? = some (.predicting features) →
      serving.scorer.model = some model → 40 < predict model features * 100 → serving.Settled

end ModelServing

section Invariant

variable {predict : Model → Features → ℚ} {serving next : ModelServing Model Features}
  {label : ServingLabel}

namespace ModelServing

/-- A model is loaded and stays so, and whoever is to read an explainer will find
the one of its booster. -/
structure Sound (serving : ModelServing Model Features) : Prop where
  loaded : serving.scorer.modelLoaded = true
  model : serving.scorer.model.isSome
  unfailed : ∀ load ∈ serving.loads, load ≠ .clearing
  settled : serving.Settled → serving.scorer.explainer = serving.scorer.model
  swapping : ∀ (call : Nat) (model : Model),
    serving.loads[call]? = some (.settingExplainer model) →
      serving.scorer.model = some model ∧
        (∀ (other : Nat) (load : LoadPhase Model), serving.loads[other]? = some load →
          load.swapping = true → other = call) ∧
        ∀ score ∈ serving.scores, score.awaited = none
  awaiting : ∀ score ∈ serving.scores, ∀ model, score.awaited = some model →
    serving.scorer.model = some model ∧ serving.scorer.explainer = some model
  consistent : serving.ScoresConsistently

/-- A service that has loaded its model is sound. -/
theorem Loaded.sound (start : serving.Loaded) : serving.Sound where
  loaded := start.loaded
  model := start.model
  unfailed load member := by
    rw [start.loads load member]
    nofun
  settled _ := start.explainer
  swapping call model found := by
    cases start.loads _ (List.mem_of_getElem? found)
  awaiting score member model awaited := by
    obtain ⟨features, rfl⟩ := start.scores score member
    cases awaited
  consistent score member := by
    obtain ⟨features, rfl⟩ := start.scores score member
    trivial

/-- Publication touches neither the scorer nor the calls. -/
theorem Sound.publish (sound : serving.Sound) (root : ModelsRoot Model)
    (trainings : List (Training Model)) : Sound { serving with root, trainings } :=
  ⟨sound.loaded, sound.model, sound.unfailed, sound.settled, sound.swapping, sound.awaiting,
    sound.consistent⟩

/-- A score call moves on. -/
theorem Sound.scored (sound : serving.Sound) {call : Nat} {phase : ScorePhase Model Features}
    (consistent : phase.Consistent)
    (awaits : ∀ model, phase.awaited = some model → serving.Settled ∧
      serving.scorer.model = some model ∧ serving.scorer.explainer = some model) :
    Sound { serving with scores := serving.scores.set call phase } where
  loaded := sound.loaded
  model := sound.model
  unfailed := sound.unfailed
  settled := sound.settled
  swapping index model found := by
    obtain ⟨current, alone, unawaited⟩ := sound.swapping index model found
    refine ⟨current, alone, fun score member => ?_⟩
    rcases List.mem_or_eq_of_mem_set member with member | rfl
    · exact unawaited score member
    · cases awaited : score.awaited with
      | none => rfl
      | some other =>
          have settled := (awaits other awaited).1 _ (List.mem_of_getElem? found)
          cases settled
  awaiting score member model awaited := by
    rcases List.mem_or_eq_of_mem_set member with member | rfl
    · exact sound.awaiting score member model awaited
    · exact (awaits model awaited).2
  consistent score member := by
    rcases List.mem_or_eq_of_mem_set member with member | rfl
    · exact sound.consistent score member
    · exact consistent

/-- A load that another one's step finds swapping is a different load, and was already
swapping. -/
theorem swapping_of_set {call other : Nat} {before after load : LoadPhase Model}
    (found : serving.loads[call]? = some before) (still : after.swapping = false)
    (present : (serving.loads.set call after)[other]? = some load) (swaps : load.swapping = true) :
    other ≠ call ∧ serving.loads[other]? = some load := by
  have different : other ≠ call := by
    rintro rfl
    rw [List.getElem?_set_self', found] at present
    obtain rfl : after = load := Option.some.inj present
    rw [still] at swaps
    cases swaps
  rw [List.getElem?_set_ne different.symm] at present
  exact ⟨different, present⟩

/-- Where every load stands still after the step of one that did before, all of them did. -/
theorem settled_of_set {call : Nat} {before after : LoadPhase Model}
    (found : serving.loads[call]? = some before) (still : before.swapping = false)
    (settled : ∀ load ∈ serving.loads.set call after, load.swapping = false) :
    serving.Settled := by
  intro load member
  obtain ⟨other, present⟩ := List.mem_iff_getElem?.mp member
  by_cases same : other = call
  · subst same
    obtain rfl : before = load := Option.some.inj (found.symm.trans present)
    exact still
  · refine settled load (List.mem_of_getElem? (i := other) ?_)
    rw [List.getElem?_set_ne (Ne.symm same), present]

/-- A load moves on and leaves the booster and the explainer as they are. -/
theorem Sound.moved (sound : serving.Sound) {call : Nat} {before after : LoadPhase Model}
    {scorer : LightGBMScorer Model} (found : serving.loads[call]? = some before)
    (still : before.swapping = false) (stays : after.swapping = false) (serves : after ≠ .clearing)
    (loaded : scorer.modelLoaded = true) (model : scorer.model = serving.scorer.model)
    (explainer : scorer.explainer = serving.scorer.explainer) :
    Sound { serving with scorer, loads := serving.loads.set call after } where
  loaded := loaded
  model := model ▸ sound.model
  unfailed load member := by
    rcases List.mem_or_eq_of_mem_set member with member | rfl
    · exact sound.unfailed load member
    · exact serves
  settled settled := by
    rw [explainer, model]
    exact sound.settled (settled_of_set found still settled)
  swapping index model' present := by
    obtain ⟨-, present⟩ := swapping_of_set found stays present rfl
    obtain ⟨current, alone, unawaited⟩ := sound.swapping index model' present
    refine ⟨model.trans current, fun other load later swaps => ?_, unawaited⟩
    exact alone other load (swapping_of_set found stays later swaps).2 swaps
  awaiting score member awaitedModel awaited := by
    rw [model, explainer]
    exact sound.awaiting score member awaitedModel awaited
  consistent := sound.consistent

/-- A load assigns the booster. -/
theorem Sound.setModel (sound : serving.Sound) {call : Nat} {model : Model}
    (found : serving.loads[call]? = some (.settingModel model)) (settled : serving.Settled)
    (unawaited : ∀ score ∈ serving.scores, score.awaited = none) :
    Sound
      { serving with
        scorer := { serving.scorer with model := some model }
        loads := serving.loads.set call (.settingExplainer model) } where
  loaded := sound.loaded
  model := rfl
  unfailed load member := by
    rcases List.mem_or_eq_of_mem_set member with member | rfl
    · exact sound.unfailed load member
    · nofun
  settled unsettled := by
    have present : (serving.loads.set call (.settingExplainer model))[call]? =
        some (.settingExplainer model) := by
      rw [List.getElem?_set_self', found]
      rfl
    cases unsettled _ (List.mem_of_getElem? present)
  swapping index other present := by
    have mine : ∀ {index : Nat} {load : LoadPhase Model},
        (serving.loads.set call (.settingExplainer model))[index]? = some load →
        load.swapping = true → index = call := by
      intro index load present swaps
      by_contra different
      rw [List.getElem?_set_ne (Ne.symm different)] at present
      rw [settled load (List.mem_of_getElem? present)] at swaps
      cases swaps
    obtain rfl := mine present rfl
    rw [List.getElem?_set_self', found] at present
    cases present
    exact ⟨rfl, fun other load later swaps => mine later swaps, unawaited⟩
  awaiting score member other awaited := by
    rw [unawaited score member] at awaited
    cases awaited
  consistent := sound.consistent

/-- A load assigns the explainer of the booster it has assigned. -/
theorem Sound.setExplainer (sound : serving.Sound) {call : Nat} {model : Model}
    (found : serving.loads[call]? = some (.settingExplainer model)) :
    Sound
      { serving with
        scorer := { serving.scorer with explainer := some model }
        loads := serving.loads.set call .settingVersion } := by
  obtain ⟨current, alone, unawaited⟩ := sound.swapping call model found
  refine ⟨sound.loaded, sound.model, ?_, fun _ => current.symm, ?_, ?_, sound.consistent⟩
  · intro load member
    rcases List.mem_or_eq_of_mem_set member with member | rfl
    · exact sound.unfailed load member
    · nofun
  · intro index other present
    obtain ⟨different, present⟩ := swapping_of_set found rfl present rfl
    exact absurd (alone index _ present rfl) different
  · intro score member other awaited
    rw [unawaited score member] at awaited
    cases awaited

/-- A step of an undisturbed load keeps the service sound. -/
theorem Sound.load (sound : serving.Sound) {call : Nat} {raises : Bool}
    (undisturbed : serving.Undisturbed predict (.load call raises))
    (step : serving.step predict (.load call raises) = some next) : next.Sound := by
  obtain ⟨phase, found, step⟩ := Option.bind_eq_some_iff.mp step
  obtain ⟨⟨after, scorer⟩, moved, rfl⟩ := Option.map_eq_some_iff.mp step
  have undisturbed := undisturbed phase found
  cases phase with
  | ready =>
      have present : serving.root.modelFile.isSome = true := undisturbed
      simp only [LoadPhase.step, present, if_true, Option.some.injEq, Prod.mk.injEq] at moved
      obtain ⟨rfl, rfl⟩ := moved
      exact sound.moved found rfl rfl nofun sound.loaded rfl rfl
  | opening =>
      obtain ⟨rfl, model, complete⟩ := undisturbed
      simp only [LoadPhase.step, complete, Option.some.injEq, Prod.mk.injEq] at moved
      obtain ⟨rfl, rfl⟩ := moved
      exact sound.moved found rfl rfl nofun sound.loaded rfl rfl
  | warming model =>
      obtain rfl : raises = false := undisturbed
      cases moved
      exact sound.moved found rfl rfl nofun sound.loaded rfl rfl
  | settingModel model =>
      cases moved
      exact sound.setModel found undisturbed.1 undisturbed.2
  | settingExplainer model =>
      cases moved
      exact sound.setExplainer found
  | settingVersion =>
      cases moved
      exact sound.moved found rfl rfl nofun sound.loaded rfl rfl
  | settingLoaded =>
      cases moved
      exact sound.moved found rfl rfl nofun rfl rfl rfl
  | clearing => exact absurd rfl (sound.unfailed _ (List.mem_of_getElem? found))
  | done => cases moved

theorem Sound.score (sound : serving.Sound) {call : Nat}
    (undisturbed : serving.Undisturbed predict (.score call))
    (step : serving.step predict (.score call) = some next) : next.Sound := by
  obtain ⟨phase, found, step⟩ := Option.bind_eq_some_iff.mp step
  obtain ⟨after, moved, rfl⟩ := Option.map_eq_some_iff.mp step
  obtain ⟨model, held⟩ := Option.isSome_iff_exists.mp sound.model
  have unswapped : ∀ {waiting : Model}, phase.awaited = some waiting → serving.Settled ∧
      serving.scorer.model = some waiting ∧ serving.scorer.explainer = some waiting := by
    intro waiting awaited
    have member := List.mem_of_getElem? found
    refine ⟨fun load present => ?_, sound.awaiting phase member waiting awaited⟩
    cases load with
    | settingExplainer model =>
        obtain ⟨index, present⟩ := List.mem_iff_getElem?.mp present
        rw [(sound.swapping index model present).2.2 phase member] at awaited
        cases awaited
    | _ => rfl
  cases phase with
  | ready features =>
      simp only [ScorePhase.step, sound.loaded, if_true, Option.some.injEq] at moved
      subst moved
      exact sound.scored trivial nofun
  | checking features =>
      simp only [ScorePhase.step, held, Option.isNone_some, Bool.false_eq_true, if_false,
        Option.some.injEq] at moved
      subst moved
      exact sound.scored trivial nofun
  | predicting features =>
      simp only [ScorePhase.step, held, Option.some.injEq] at moved
      by_cases alarming : 40 < predict model features * 100
      · rw [if_pos alarming] at moved
        subst moved
        have settled := undisturbed features model found held alarming
        refine sound.scored trivial ?_
        rintro waiting ⟨rfl⟩
        exact ⟨settled, held, (sound.settled settled).trans held⟩
      · rw [if_neg alarming] at moved
        subst moved
        exact sound.scored trivial nofun
  | explaining waiting =>
      obtain ⟨settled, current, explainer⟩ := unswapped rfl
      simp only [ScorePhase.step, explainer, Option.isSome_some, if_true,
        Option.some.injEq] at moved
      subst moved
      refine sound.scored trivial ?_
      rintro other ⟨rfl⟩
      exact ⟨settled, current, explainer⟩
  | valuing waiting =>
      obtain ⟨settled, current, explainer⟩ := unswapped rfl
      simp only [ScorePhase.step, explainer, Option.some.injEq] at moved
      subst moved
      exact sound.scored rfl nofun
  | missing => cases moved
  | raised => cases moved
  | scored predicted explained => cases moved

/-- So every undisturbed step does. -/
theorem Sound.step (sound : serving.Sound) (undisturbed : serving.Undisturbed predict label)
    (step : serving.step predict label = some next) : next.Sound := by
  cases label with
  | train index =>
      obtain ⟨training, -, step⟩ := Option.bind_eq_some_iff.mp step
      obtain ⟨⟨stage, root⟩, -, rfl⟩ := Option.map_eq_some_iff.mp step
      exact sound.publish root _
  | crash index =>
      obtain ⟨training, -, step⟩ := Option.bind_eq_some_iff.mp step
      obtain ⟨stage, -, rfl⟩ := Option.map_eq_some_iff.mp step
      exact sound.publish serving.root _
  | load call raises => exact sound.load undisturbed step
  | score call => exact sound.score undisturbed step

end ModelServing

end Invariant

/-- While publication and loads disturb neither each other nor the calls, every
score call after a successful load runs with a loaded model and explains the
probability of the same model. -/
theorem modelServing_consistent {Model Features : Type} (predict : Model → Features → ℚ)
    (serving : ModelServing Model Features) (loaded : serving.Loaded) (labels : List ServingLabel)
    (undisturbed : (modelServing predict).Guarded (ModelServing.Undisturbed predict) serving
      labels) :
    (modelServing predict).Along ModelServing.ScoresConsistently serving labels := by
  have kept : (modelServing predict).Along ModelServing.Sound serving labels :=
    Machine.along_of_guarded (fun sound allowed step => ModelServing.Sound.step sound allowed step)
      loaded.sound undisturbed
  exact kept.mono fun serving sound => sound.consistent

/-! ## Two versions -/

/-- The first version is loaded and the second trained; no call has begun. -/
def firstVersion : ModelServing Nat Unit where
  root := ⟨fun version => if version = "20260101_000000" then some (.complete 1) else none,
    some "20260101_000000"⟩
  trainings := [⟨"20260201_000000", 2, .trained⟩]
  scorer := ⟨some 1, some 1, "current", true⟩
  loads := [.ready]
  scores := [.ready ()]

theorem firstVersion_loaded : firstVersion.Loaded where
  loaded := rfl
  model := rfl
  explainer := rfl
  loads _ member := List.mem_singleton.mp member
  scores _ member := ⟨(), List.mem_singleton.mp member⟩

/-- The second version is published, with a load and a score call under way. -/
def published (scorer : LightGBMScorer Nat) (load : LoadPhase Nat) (score : ScorePhase Nat Unit) :
    ModelServing Nat Unit where
  root := { firstVersion.root.write "20260201_000000" (.complete 2) with
    current := some "20260201_000000" }
  trainings := [⟨"20260201_000000", 2, .published⟩]
  scorer
  loads := [load]
  scores := [score]

theorem published_loaded : (published firstVersion.scorer .ready (.ready ())).Loaded where
  loaded := rfl
  model := rfl
  explainer := rfl
  loads _ member := List.mem_singleton.mp member
  scores _ member := ⟨(), List.mem_singleton.mp member⟩

/-- A load and then a score, one after the other, are consistent. -/
theorem modelServing_inTurn :
    (modelServing fun _ _ => 1).Along ModelServing.ScoresConsistently
      (published firstVersion.scorer .ready (.ready ()))
      (List.replicate 7 (.load 0 false) ++ List.replicate 5 (.score 0)) := by
  refine modelServing_consistent _ _ published_loaded _ ?_
  have settled : ∀ {scorer load score}, load.swapping = false →
      (published scorer load score).Settled := by
    rintro scorer load score still other member
    rw [List.mem_singleton.mp member]
    exact still
  have unawaited : ∀ {scorer load}, ∀ score ∈ (published scorer load (.ready ())).scores,
      score.awaited = none := by
    intro scorer load score member
    rw [List.mem_singleton.mp member]
    rfl
  let first : LightGBMScorer Nat := firstVersion.scorer
  let half : LightGBMScorer Nat := { first with model := some 2 }
  let second : LightGBMScorer Nat := { half with explainer := some 2 }
  refine Machine.guarded_cons (published first .opening (.ready ())) rfl
    (by rintro phase ⟨rfl⟩; rfl) ?_
  refine Machine.guarded_cons (published first (.warming 2) (.ready ())) rfl
    (by rintro phase ⟨rfl⟩; exact ⟨rfl, 2, rfl⟩) ?_
  refine Machine.guarded_cons (published first (.settingModel 2) (.ready ())) rfl
    (by rintro phase ⟨rfl⟩; rfl) ?_
  refine Machine.guarded_cons (published half (.settingExplainer 2) (.ready ())) rfl
    (by rintro phase ⟨rfl⟩; exact ⟨settled rfl, unawaited⟩) ?_
  refine Machine.guarded_cons (published second .settingVersion (.ready ())) rfl
    (by rintro phase ⟨rfl⟩; trivial) ?_
  refine Machine.guarded_cons (published second .settingLoaded (.ready ())) rfl
    (by rintro phase ⟨rfl⟩; trivial) ?_
  refine Machine.guarded_cons (published second .done (.ready ())) rfl
    (by rintro phase ⟨rfl⟩; trivial) ?_
  refine Machine.guarded_cons (published second .done (.checking ())) rfl nofun ?_
  refine Machine.guarded_cons (published second .done (.predicting ())) rfl nofun ?_
  have alarming : (40 : ℚ) < 1 * 100 := by decide +kernel
  refine Machine.guarded_cons (published second .done (.explaining 2))
    (congrArg (fun phase => some (published second .done phase)) (if_pos alarming))
    (fun _ _ _ _ _ => settled rfl) ?_
  refine Machine.guarded_cons (published second .done (.valuing 2)) rfl nofun ?_
  exact Machine.guarded_cons (published second .done (.scored 2 (some 2))) rfl nofun trivial

/-- A load falls between the removal of the link and its creation. -/
def prematureLoad : List ServingLabel :=
  List.replicate 7 (.train 0) ++ List.replicate 2 (.load 0 false) ++ [.score 0]

/-- A load of the second version falls between a prediction and its explanation. -/
def swapInBetween : List ServingLabel :=
  List.replicate 8 (.train 0) ++ List.replicate 3 (.score 0) ++ List.replicate 7 (.load 0 false) ++
    List.replicate 2 (.score 0)

/-- In other orders a score finds no model, or mixes two versions. -/
theorem modelServing_inconsistent :
    firstVersion.Loaded ∧ (¬ ∀ labels, (modelServing fun _ _ => 1).Along
      (fun serving : ModelServing Nat Unit => .missing ∉ serving.scores) firstVersion labels) ∧
      ¬ ∀ labels, (modelServing fun _ _ => 1).Along
        (fun serving : ModelServing Nat Unit => ∀ predicted explained,
          .scored predicted (some explained) ∈ serving.scores → explained = predicted)
        firstVersion labels := by
  refine ⟨firstVersion_loaded, ?_, ?_⟩
  · intro never
    have run : ((modelServing fun _ (_ : Unit) => 1).exec firstVersion prematureLoad).map
        (·.scores) = some [.missing] := by decide +kernel
    obtain ⟨serving, reached, scores⟩ := Option.map_eq_some_iff.mp run
    exact (never prematureLoad).final reached (scores ▸ List.mem_singleton_self _)
  · intro always
    have run : ((modelServing fun _ (_ : Unit) => 1).exec firstVersion swapInBetween).map
        (·.scores) = some [.scored 1 (some 2)] := by decide +kernel
    obtain ⟨serving, reached, scores⟩ := Option.map_eq_some_iff.mp run
    exact absurd ((always swapInBetween).final reached 1 2 (scores ▸ List.mem_singleton_self _))
      (by decide)

end Sentinel.Risk
