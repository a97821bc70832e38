-- Requests that are put together by steps, and the processes that are made of them. A step changes
-- one field of the request and looks at no other, so only the order of the steps on the same field
-- counts. Arguments are added to a process one after the other, whoever adds them.
import GitSteward.Request

namespace GitSteward

variable {a b : RequestStep} {before after : List RequestStep}

/-! ## Arguments of a process -/

namespace Launch

theorem addArg_eq (l : Launch) (text : String) : l.addArg text = l.addArgs [text] := by
  simp [addArg, addArgs]

theorem addArgs_addArgs (l : Launch) (first second : List String) :
    (l.addArgs first).addArgs second = l.addArgs (first ++ second) := by
  simp [addArgs, Bool.or_assoc]

end Launch

namespace Request

theorem args_launch (r : Request) (program : String) (ambient : Assignments) :
    (r.launch program ambient).args = r.args.map passedText := List.nil_append _

/-- The request with all arguments that git is given for it. -/
def spelledOut (r : Request) (s : Service) : Request := { r with args := Launch.gitArgs s r.args }

/-- It does not matter for a git process who adds its arguments. -/
theorem gitLaunch_eq (r : Request) (program : String) (ambient : Assignments) (s : Service) :
    r.gitLaunch program ambient s = (r.spelledOut s).launch program ambient := by
  simp only [gitLaunch, launch, Launch.addArg_eq, Launch.addArgs_addArgs, spelledOut,
    Launch.gitArgs, List.append_assoc, List.singleton_append]
  rfl

end Request

/-! ## Steps -/

/-- What a step changes of a request. -/
inductive RequestField where
  | args
  | env
  | stdin
  | stdout
  | stderr
  | hook
deriving DecidableEq

namespace RequestStep

def field : RequestStep → RequestField
  | .arg _ | .args _ => .args
  | .env _ _ | .envs _ => .env
  | .stdin _ => .stdin
  | .stdout _ => .stdout
  | .stderr _ => .stderr
  | .hook _ => .hook

/-- The arguments that a step adds to a request. -/
def texts : RequestStep → List String
  | .arg text => [text]
  | .args texts => texts
  | .env _ _ | .envs _ | .stdin _ | .stdout _ | .stderr _ | .hook _ => []

end RequestStep

namespace Request

theorem apply_comm (r : Request) (h : a.field ≠ b.field) :
    (r.apply a).apply b = (r.apply b).apply a := by
  cases a <;> cases b <;> first | rfl | exact absurd rfl h

/-- What steps add to a list of the request stands there in their order. -/
theorem added_by_steps {α : Type} {list : Request → List α} {added : RequestStep → List α}
    (one : ∀ r step, list (apply r step) = list r ++ added step) (r : Request)
    (steps : List RequestStep) : list (steps.foldl apply r) = list r ++ steps.flatMap added := by
  induction steps generalizing r with
  | nil => exact (List.append_nil _).symm
  | cons step rest ih => rw [List.foldl_cons, ih, one, List.append_assoc, List.flatMap_cons]

theorem args_of_steps (r : Request) (steps : List RequestStep) :
    (steps.foldl apply r).args = r.args ++ steps.flatMap (·.texts) := by
  refine added_by_steps (fun r step => ?_) r steps
  cases step with
  | arg | args => rfl
  | env | envs | stdin | stdout | stderr | hook => exact (List.append_nil _).symm

theorem dir_of_steps (r : Request) (steps : List RequestStep) :
    (steps.foldl apply r).dir = r.dir := by
  induction steps generalizing r with
  | nil => rfl
  | cons step rest ih =>
    have one : (r.apply step).dir = r.dir := by cases step <;> rfl
    rw [List.foldl_cons, ih, one]

/-- A step can be taken before all those on other fields. -/
theorem take_first (r : Request) (h : ∀ b ∈ before, a.field ≠ b.field) :
    (before ++ a :: after).foldl apply r = (before ++ after).foldl apply (r.apply a) := by
  induction before generalizing r with
  | nil => rfl
  | cons b rest ih =>
    have hb := h b List.mem_cons_self
    rw [List.cons_append, List.foldl_cons, ih _ fun b hmem => h b (List.mem_cons_of_mem _ hmem),
      List.cons_append, List.foldl_cons, apply_comm r hb]

/-- Only the order of the steps on the same field counts. -/
theorem steps_of_fields {steps steps' : List RequestStep} (r : Request)
    (h : ∀ f, steps.filter (·.field = f) = steps'.filter (·.field = f)) :
    steps.foldl apply r = steps'.foldl apply r := by
  induction steps generalizing r steps' with
  | nil =>
    have none : steps' = [] := by
      refine List.eq_nil_iff_forall_not_mem.mpr fun a ha => ?_
      have mine := List.filter_eq_nil_iff.mp (h a.field).symm a ha
      simp at mine
    rw [none]
  | cons a rest ih =>
    -- the same step comes first in its field, behind steps on other fields only
    obtain ⟨before, after, rfl, others, -, same⟩ := List.filter_eq_cons_iff.mp
      ((h a.field).symm.trans (List.filter_cons_of_pos (by simp)))
    rw [take_first r (by simpa [eq_comm] using others), List.foldl_cons]
    refine ih _ fun f => ?_
    by_cases hf : a.field = f
    · subst hf
      rw [List.filter_append, List.filter_eq_nil_iff.mpr others, List.nil_append, same]
    · have hrest := h f
      rw [List.filter_append, List.filter_cons_of_neg (by simpa using hf),
        List.filter_cons_of_neg (by simpa using hf), ← List.filter_append] at hrest
      exact hrest

theorem apply_args (r : Request) (texts : List String) :
    r.apply (.args texts) = (texts.map .arg).foldl apply r := by
  induction texts generalizing r with
  | nil => simp [apply]
  | cons text rest ih =>
    rw [List.map_cons, List.foldl_cons, ← ih]
    simp [apply]

theorem apply_envs (r : Request) (assignments : Assignments) :
    r.apply (.envs assignments) = (assignments.map fun a => .env a.1 a.2).foldl apply r := by
  induction assignments generalizing r with
  | nil => simp [apply]
  | cons a rest ih =>
    rw [List.map_cons, List.foldl_cons, ← ih]
    simp [apply]

/-- One step that does the same as several can take their place anywhere in a request. -/
theorem build_replace {steps : List RequestStep}
    (h : ∀ r : Request, r.apply a = steps.foldl apply r) (dir : String)
    (before after : List RequestStep) :
    build dir (before ++ a :: after) = build dir (before ++ steps ++ after) := by
  simp only [build, List.foldl_append, List.foldl_cons, h]

end Request

end GitSteward
