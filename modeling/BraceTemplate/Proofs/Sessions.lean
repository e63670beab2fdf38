import Mathlib
import BraceTemplate.Proofs.Outcome
import BraceTemplate.Render.Session

/-!
# Sessions forget their history

A session carries more along than its environment and its templates: each template may keep the
paths that it reads, and the shared walker holds what its last analysis left in it.  None of this
shows.  The invariant is `Session.Sound`: what a template keeps is what a new walker finds.  Under
it every step answers as it would in the session that has forgotten all that (`Session.forget`), and
leads to sessions that differ in nothing else (`Session.Sound.run_forget`).

So the answers about a template are those of a template just made, with the options that the
environment had when it was made, and a step that fails might as well not have been taken.
`Session.answers_forget_history` says so for every row of steps.
-/

namespace BraceTemplate

/-! ## Templates that keep their paths -/

namespace HeldTemplate

variable {t : HeldTemplate}

/-- What a template keeps is what a new walker finds. -/
def Sound (t : HeldTemplate) : Prop :=
  ∀ paths, t.found = some paths → paths = (({} : Walker).analyze t.template.document.nodes).found

/-- A template that keeps nothing is sound. -/
lemma sound_new (t : Template) : Sound { template := t } := nofun

lemma template_dependencies (t : HeldTemplate) : t.dependencies.1.template = t.template := by
  rw [dependencies]
  split <;> rfl

lemma Sound.dependencies (sound : t.Sound) : t.dependencies.1.Sound := by
  rw [HeldTemplate.dependencies]
  split
  · exact sound
  · intro paths kept
    exact (Option.some.inj kept).symm

lemma Sound.dependencies_eq (sound : t.Sound) :
    t.dependencies.2 = (({} : Walker).analyze t.template.document.nodes).found := by
  rw [HeldTemplate.dependencies]
  split
  · rename_i kept
    exact sound _ kept
  · rfl

/-- No query changes a template, apart from the paths that it keeps. -/
lemma template_answer (g : Graph) (t : HeldTemplate) (query : TemplateQuery) :
    (t.answer g query).1.template = t.template := by
  cases query with
  | dependencies | missingNames context => exact template_dependencies t
  | _ => rfl

lemma Sound.answer (sound : t.Sound) (g : Graph) (query : TemplateQuery) :
    (t.answer g query).1.Sound := by
  cases query with
  | dependencies | missingNames context => exact sound.dependencies
  | _ => exact sound

/-- **A template answers as if nothing had been asked of it before.** -/
theorem Sound.answer_eq (sound : t.Sound) (g : Graph) (query : TemplateQuery) :
    (t.answer g query).2 = (HeldTemplate.answer g { template := t.template } query).2 := by
  have paths := sound.dependencies_eq
  cases query with
  | dependencies => exact congrArg (fun found => Except.ok (SessionAnswer.names found)) paths
  | missingNames context =>
    simp only [HeldTemplate.answer, missingNames, paths]
    rfl
  | _ => rfl

/-- No template answers a query by a number. -/
lemma answer_ne_index (g : Graph) (t : HeldTemplate) (query : TemplateQuery) (n : Nat) :
    (t.answer g query).2 ≠ .ok (.index n) := by
  intro same
  cases query with
  | render arguments bindings | missingNames context =>
    obtain ⟨_, -, other⟩ := map_eq_ok_iff.1 same
    cases other
  | _ => cases same

end HeldTemplate

/-! ## What a step does -/

/-- What a step makes of the options of the environment. -/
def SessionStep.optionsAfter (o : Options) : SessionStep → Options
  | .set name value => o.set name value
  | _ => o

/-- The template that a step makes: that of a source, with the options given, or that of a document
alone. -/
def SessionStep.made? (o : Options) : SessionStep → Option Template
  | .addSource source name => (Template.ofSource source o name).toOption
  | .addDocument source name => (parse source).toOption.map (Template.ofDocument · name)
  | .addTree d name => some (.ofDocument d name)
  | _ => none

namespace Session

variable {g : Graph} {s : Session}

/-- The templates themselves, without what they keep. -/
def made (s : Session) : List Template := s.templates.map (·.template)

/-- The session with the same environment and templates, of which nothing has been asked yet. -/
def forget (s : Session) : Session := ⟨s.options, s.made.map fun t => { template := t }, {}⟩

/-- All templates keep what a new walker finds. -/
def Sound (s : Session) : Prop := ∀ t ∈ s.templates, t.Sound

@[simp] lemma options_forget (s : Session) : s.forget.options = s.options := rfl

lemma made_forget (s : Session) : s.forget.made = s.made := by
  simp [forget, made, Function.comp_def]

lemma sound_forget (s : Session) : s.forget.Sound := by
  intro t there
  obtain ⟨t, -, rfl⟩ := List.mem_map.1 there
  exact HeldTemplate.sound_new t

lemma getElem?_made (s : Session) (i : Nat) : s.made[i]? = s.templates[i]?.map (·.template) :=
  List.getElem?_map ..

lemma getElem?_forget (s : Session) (i : Nat) :
    s.forget.templates[i]? = s.made[i]?.map fun t => { template := t } :=
  List.getElem?_map ..

lemma made_add (s : Session) (t : Template) : (s.add t).1.made = s.made ++ [t] :=
  List.map_append

/-- Asking a template leaves all templates as they are, apart from what they keep. -/
lemma made_set {i : Nat} {t t' : HeldTemplate} (there : s.templates[i]? = some t)
    (same : t'.template = t.template) :
    ({ s with templates := s.templates.set i t' } : Session).made = s.made := by
  refine List.ext_getElem? fun j => ?_
  simp only [made, List.getElem?_map, List.getElem?_set]
  split
  · rename_i here
    subst here
    obtain ⟨inside, -⟩ := List.getElem?_eq_some_iff.1 there
    rw [if_pos inside, there, Option.map_some, Option.map_some, same]
  · rfl

/-! ### One step -/

/-- A step sets an option, or leaves the options alone. -/
lemma options_step (g : Graph) (s : Session) (step : SessionStep) :
    (s.step g step).1.options = step.optionsAfter s.options := by
  cases step with
  | addSource source name | addDocument source name | ask i query | walk i =>
    rw [Session.step]
    split <;> rfl
  | _ => rfl

/-- **A step makes a template, or leaves the templates as they are.** -/
theorem made_step (g : Graph) (s : Session) (step : SessionStep) :
    (s.step g step).1.made = s.made ++ (step.made? s.options).toList := by
  have kept {s' : Session} (same : s'.made = s.made) :
      s'.made = s.made ++ (none : Option Template).toList :=
    same.trans (List.append_nil _).symm
  cases step with
  | set name value | options | display => exact kept rfl
  | addSource source name =>
    rw [Session.step, SessionStep.made?]
    cases Template.ofSource source s.options name with
    | error e => exact kept rfl
    | ok t => exact made_add s t
  | addDocument source name =>
    rw [Session.step, SessionStep.made?, Template.ofSource]
    cases parse source with
    | error f => exact kept rfl
    | ok d => exact made_add s _
  | addTree d name => exact made_add s _
  | ask i query =>
    rw [Session.step]
    cases there : s.templates[i]? with
    | none => exact kept rfl
    | some t => exact kept (made_set there (t.template_answer g query))
  | walk i =>
    rw [Session.step]
    cases s.templates[i]? <;> exact kept rfl

/-- A step answers a number exactly if it makes the template of that number. -/
lemma step_eq_index_iff {step : SessionStep} {n : Nat} :
    (s.step g step).2 = .ok (.index n) ↔ (step.made? s.options).isSome ∧ n = s.made.length := by
  have number (t : Template) :
      (Except.ok (s.add t).2 : Except TemplateError SessionAnswer) = .ok (.index n) ↔
        (some t).isSome ∧ n = s.made.length := by
    rw [add, made, List.length_map, Except.ok.injEq, SessionAnswer.index.injEq, eq_comm]
    exact (and_iff_right rfl).symm
  cases step with
  | set name value | options => exact ⟨nofun, nofun⟩
  | display =>
    refine ⟨fun same => ?_, nofun⟩
    obtain ⟨_, -, other⟩ := map_eq_ok_iff.1 same
    cases other
  | addSource source name =>
    rw [Session.step, SessionStep.made?]
    cases Template.ofSource source s.options name with
    | error e => exact ⟨nofun, nofun⟩
    | ok t => exact number t
  | addDocument source name =>
    rw [Session.step, SessionStep.made?, Template.ofSource]
    cases parse source with
    | error f => exact ⟨nofun, nofun⟩
    | ok d => exact number (.ofDocument d name)
  | addTree d name => exact number (.ofDocument d name)
  | ask i query =>
    rw [Session.step]
    cases s.templates[i]? with
    | none => exact ⟨nofun, nofun⟩
    | some t => exact ⟨fun same => absurd same (t.answer_ne_index g query n), nofun⟩
  | walk i =>
    rw [Session.step]
    cases s.templates[i]? <;> exact ⟨nofun, nofun⟩

lemma Sound.step (sound : s.Sound) (g : Graph) (step : SessionStep) :
    (s.step g step).1.Sound := by
  have added (t : Template) : (s.add t).1.Sound := by
    intro held there
    obtain old | new := List.mem_append.1 there
    · exact sound held old
    · rw [List.mem_singleton.1 new]
      exact HeldTemplate.sound_new t
  cases step with
  | set name value | options | display => exact sound
  | addSource source name | addDocument source name =>
    rw [Session.step]
    split
    · exact added _
    · exact sound
  | addTree d name => exact added _
  | ask i query =>
    rw [Session.step]
    cases there : s.templates[i]? with
    | none => exact sound
    | some t =>
      intro held inside
      obtain old | new := List.mem_or_eq_of_mem_set inside
      · exact sound held old
      · rw [new]
        exact (sound t (List.mem_of_getElem? there)).answer g query
  | walk i =>
    rw [Session.step]
    cases s.templates[i]? <;> exact sound

/-- The next session depends on nothing that is forgotten. -/
lemma forget_step (g : Graph) (s : Session) (step : SessionStep) :
    (s.forget.step g step).1.forget = (s.step g step).1.forget := by
  have options : (s.forget.step g step).1.options = (s.step g step).1.options := by
    rw [options_step, options_step]
    rfl
  have made : (s.forget.step g step).1.made = (s.step g step).1.made := by
    rw [made_step, made_step, made_forget]
    rfl
  simp only [forget] at options made ⊢
  rw [options, made]

/-- **A step answers what it would answer if nothing had been asked before.** -/
theorem Sound.step_eq (sound : s.Sound) (g : Graph) (step : SessionStep) :
    (s.forget.step g step).2 = (s.step g step).2 := by
  have added (t : Template) : (s.forget.add t).2 = (s.add t).2 := by
    rw [add, add, forget, made, List.length_map, List.length_map]
  cases step with
  | set name value | options | display => rfl
  | addSource source name =>
    simp only [Session.step, added, options_forget]
    cases Template.ofSource source s.options name <;> rfl
  | addDocument source name =>
    simp only [Session.step, added]
    cases Template.ofSource source {} none <;> rfl
  | addTree d name => exact congrArg Except.ok (added _)
  | ask i query =>
    rw [Session.step, Session.step, getElem?_forget, getElem?_made]
    cases there : s.templates[i]? with
    | none => rfl
    | some t => exact ((sound t (List.mem_of_getElem? there)).answer_eq g query).symm
  | walk i =>
    rw [Session.step, Session.step, getElem?_forget, getElem?_made]
    cases s.templates[i]? <;> rfl

/-- **A step that fails changes neither the environment nor a template.** -/
theorem forget_step_of_error {step : SessionStep} {e : TemplateError}
    (failed : (s.step g step).2 = .error e) : (s.step g step).1.forget = s.forget := by
  have kept : step.optionsAfter s.options = s.options := by
    cases step with
    | set name value => cases failed
    | _ => rfl
  have none : step.made? s.options = none := by
    rw [← Option.not_isSome_iff_eq_none]
    intro made
    rw [step_eq_index_iff.2 ⟨made, rfl⟩] at failed
    cases failed
  rw [forget, options_step, made_step, kept, none, Option.toList_none, List.append_nil, forget]

/-! ## Rows of steps -/

/-- The session after some steps. -/
def after (g : Graph) (s : Session) (steps : List SessionStep) : Session :=
  steps.foldl (fun s step => (s.step g step).1) s

lemma after_append (g : Graph) (s : Session) (steps more : List SessionStep) :
    s.after g (steps ++ more) = (s.after g steps).after g more :=
  List.foldl_append

lemma run_append (g : Graph) (s : Session) (steps more : List SessionStep) :
    s.run g (steps ++ more) = s.run g steps ++ (s.after g steps).run g more := by
  induction steps generalizing s with
  | nil => rfl
  | cons step steps ih =>
    rw [List.cons_append, run, ih, run, List.cons_append]
    rfl

lemma Sound.after (sound : s.Sound) (g : Graph) (steps : List SessionStep) :
    (s.after g steps).Sound := by
  induction steps generalizing s with
  | nil => exact sound
  | cons step steps ih => exact ih (sound.step g step)

/-- **What is forgotten never shows.** -/
theorem Sound.run_forget (sound : s.Sound) (g : Graph) (steps : List SessionStep) :
    s.forget.run g steps = s.run g steps := by
  induction steps generalizing s with
  | nil => rfl
  | cons step steps ih =>
    rw [run, run, sound.step_eq, ← ih (s.sound_forget.step g step), forget_step,
      ih (sound.step g step)]

/-- The options of the environment are those set by the steps. -/
lemma options_after (g : Graph) (s : Session) (steps : List SessionStep) :
    (s.after g steps).options = steps.foldl SessionStep.optionsAfter s.options := by
  induction steps generalizing s with
  | nil => rfl
  | cons step steps ih =>
    rw [List.foldl_cons, ← options_step g]
    exact ih _

/-- No step removes or replaces a template. -/
lemma made_after (g : Graph) (s : Session) (steps : List SessionStep) :
    s.made <+: (s.after g steps).made := by
  induction steps generalizing s with
  | nil => exact List.prefix_rfl
  | cons step steps ih =>
    have first := made_step g s step
    exact (first ▸ List.prefix_append _ _).trans (ih _)

/-- Every new template was made by one of the steps. -/
lemma exists_made {i : Nat} (new : s.made.length ≤ i) {steps : List SessionStep}
    (there : i < (s.after g steps).made.length) :
    ∃ before step behind, steps = before ++ step :: behind ∧
      ((s.after g before).step g step).2 = .ok (.index i) := by
  induction steps using List.reverseRecOn with
  | nil => exact absurd there (Nat.not_lt.2 new)
  | append_singleton steps step ih =>
    by_cases old : i < (s.after g steps).made.length
    · obtain ⟨before, earlier, behind, shape, number⟩ := ih old
      refine ⟨before, earlier, behind ++ [step], ?_, number⟩
      rw [shape, List.append_assoc, List.cons_append]
    · -- the last step made it
      rw [after_append] at there
      change i < ((s.after g steps).step g step).1.made.length at there
      rw [made_step, List.length_append] at there
      refine ⟨steps, step, [], rfl, step_eq_index_iff.2 ?_⟩
      cases made : step.made? (s.after g steps).options with
      | none =>
        rw [made, Option.toList_none, List.length_nil] at there
        omega
      | some t =>
        rw [made, Option.toList_some, List.length_singleton] at there
        exact ⟨rfl, by omega⟩

/-! ## Main result -/

/-- The template with a number answers as one just made, of which nothing has been asked. -/
structure AnswersAs (g : Graph) (s : Session) (i : Nat) (t : Template) : Prop where
  /-- It renders in the same way. -/
  render : ∀ arguments bindings,
    s.run g [.ask i (.render arguments bindings)] = [.text <$> t.render g arguments bindings]
  /-- The paths that it reads are those that a new walker finds, whether it keeps them or not. -/
  dependencies : s.run g [.ask i .dependencies] =
    [.ok (.names (({} : Walker).analyze t.document.nodes).found)]
  /-- They are those that the shared walker finds. -/
  walk : s.run g [.walk i] = [.ok (.names (({} : Walker).analyze t.document.nodes).found)]
  /-- All its answers are the same. -/
  ask : ∀ query, s.run g [.ask i query] = [(HeldTemplate.answer g { template := t } query).2]

lemma Sound.answersAs (sound : s.Sound) {i : Nat} {t : Template} (there : s.made[i]? = some t) :
    AnswersAs g s i t := by
  have held : s.forget.templates[i]? = some { template := t } := by
    rw [getElem?_forget, there, Option.map_some]
  have ask (query : TemplateQuery) :
      s.run g [.ask i query] = [(HeldTemplate.answer g { template := t } query).2] := by
    rw [← sound.run_forget, run, run, Session.step, held]
  refine ⟨fun arguments bindings => ask _, ask _, ?_, ask⟩
  rw [← sound.run_forget, run, run, Session.step, held]
  rfl

/-- **The answers of a session do not depend on its history.**  Take any row of steps in a new
session.

* The environment has the options that were set.
* A step that fails then changes neither it nor any template, and all later answers are the same
  without it.
* Every template was made by one of the steps, and a step that answers the number of a template
  made that template with the options that the environment had when the step was taken.  Whatever
  else was done since, the template answers as it would answer just made, and both walkers find
  what a new walker finds. -/
theorem answers_forget_history (g : Graph) (o : Options) (w : Walker) (steps : List SessionStep) :
    let start : Session := { options := o, walker := w }
    let s := start.after g steps
    (∀ more, start.run g (steps ++ more) = start.run g steps ++ s.run g more) ∧
    s.options = steps.foldl SessionStep.optionsAfter o ∧
    (∀ step e, (s.step g step).2 = .error e →
      (s.step g step).1.options = s.options ∧ (s.step g step).1.made = s.made ∧
        ∀ more, (s.step g step).1.run g more = s.run g more) ∧
    (∀ i < s.made.length, ∃ before step behind, steps = before ++ step :: behind ∧
      ((start.after g before).step g step).2 = .ok (.index i)) ∧
    ∀ before step behind i, steps = before ++ step :: behind →
      ((start.after g before).step g step).2 = .ok (.index i) →
        ∃ t, step.made? (before.foldl SessionStep.optionsAfter o) = some t ∧
          s.made[i]? = some t ∧ s.AnswersAs g i t := by
  intro start s
  have sound : start.Sound := nofun
  refine ⟨run_append g start steps, options_after g start steps, ?_, ?_, ?_⟩
  · intro step e failed
    have same := forget_step_of_error failed
    refine ⟨?_, ?_, fun more => ?_⟩
    · rw [← options_forget, same, options_forget]
    · rw [← made_forget, same, made_forget]
    · rw [← ((sound.after g steps).step g step).run_forget, same,
        (sound.after g steps).run_forget]
  · intro i there
    exact exists_made (Nat.zero_le i) there
  · intro before step behind i shape number
    obtain ⟨makes, place⟩ := step_eq_index_iff.1 number
    obtain ⟨t, made⟩ := Option.isSome_iff_exists.1 makes
    have there : s.made[i]? = some t := by
      have grown := made_after g ((start.after g before).step g step).1 behind
      have last := made_step g (start.after g before) step
      rw [made, Option.toList_some] at last
      obtain ⟨rest, whole⟩ := grown
      have reached : s = ((start.after g before).step g step).1.after g behind := by
        change start.after g steps = _
        rw [shape, after_append]
        rfl
      rw [reached, ← whole, last, List.append_assoc, place, List.getElem?_append_right le_rfl,
        Nat.sub_self]
      rfl
    refine ⟨t, ?_, there, (sound.after g steps).answersAs there⟩
    rw [← made, options_after]

/-- A template that was made while the environment was lenient stays lenient: it renders after the
environment was made strict, and after names were to be compared with data that has none. -/
theorem lenient_template_stays :
    let steps : List SessionStep := [.set .strict (.bool false),
      .addSource "\x7b\x7bx\x7d\x7d" none, .set .strict (.bool true)]
    let compare : SessionStep := .ask 0 (.missingNames (.int 1))
    let s := ({} : Session).after ⟨[]⟩ steps
    s.options = ⟨.bool true, .bool true⟩ ∧
      (s.step ⟨[]⟩ compare).2 = .error (.usage (.notIterable "int")) ∧
      (s.step ⟨[]⟩ compare).1.run ⟨[]⟩ [.ask 0 (.render [] [])] = [.ok (.text "")] := by
  intro steps compare s
  let d : Document := ⟨5, [.variable ⟨⟨0, 1, 0⟩, 5⟩ "x"]⟩
  let lenient : Options := ⟨.bool false, .bool true⟩
  let t : Template := ⟨d, lenient, none, some "\x7b\x7bx\x7d\x7d"⟩
  have parsed : parse "\x7b\x7bx\x7d\x7d" = .ok d := by cbv
  have accepted : Template.ofSource "\x7b\x7bx\x7d\x7d" lenient none = .ok t := by
    rw [Template.ofSource, parsed]
  have made : SessionStep.made? lenient (.addSource "\x7b\x7bx\x7d\x7d" none) = some t := by
    rw [SessionStep.made?, accepted]
    rfl
  have first : (({} : Session).after ⟨[]⟩ [.set .strict (.bool false)]).options = lenient := rfl
  obtain ⟨-, set, failing, -, answers⟩ := answers_forget_history ⟨[]⟩ {} {} steps
  obtain ⟨t', made', -, asks⟩ := answers [.set .strict (.bool false)] _ _ 0 rfl
    (step_eq_index_iff.2 ⟨by rw [first, made]; rfl, rfl⟩)
  obtain rfl : t = t' := Option.some.inj (made.symm.trans made')
  have failed : (s.step ⟨[]⟩ compare).2 = .error (.usage (.notIterable "int")) := by
    have answer := asks.ask (.missingNames (.int 1))
    exact (List.cons.inj answer).1
  obtain ⟨-, -, same⟩ := failing compare _ failed
  have written : t.render ⟨[]⟩ [] [] = .ok "" := by cbv
  refine ⟨set, failed, ?_⟩
  rw [same, asks.render, written]
  rfl

end Session

end BraceTemplate
