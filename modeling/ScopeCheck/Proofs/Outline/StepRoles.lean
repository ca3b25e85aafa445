import ScopeCheck.Proofs.Outline.NameContext
import ScopeCheck.Proofs.Outline.Origin

/-!
# The role of a child from the step to it

Each list of roles that a construct hands out gives every child a role that can be told from the step to
the child alone, so that a pass over the children is a union over the steps.
-/

namespace ScopeCheck

open Cst (Label Step stepsFrom)

theorem readEach_map_steps (text : Label → String) (role : Step → Role) (parent : Label)
    (before children : List Cst) :
    readEach text ((stepsFrom parent before children).map role) children =
      (stepsFrom parent before children).flatMap fun step => readAs text (role step) step.child := by
  induction children generalizing before with
  | nil => rfl
  | cons child after ih =>
    rw [stepsFrom, List.map_cons, readEach, List.flatMap_cons, ih]

theorem readEach_steps (text : Label → String) (role : Step → Role) (label : Label)
    (children : List Cst) :
    readEach text ((Cst.node label children).steps.map role) children =
      (Cst.node label children).steps.flatMap fun step => readAs text (role step) step.child :=
  readEach_map_steps text role label [] children

theorem readEach_skip (text : Label → String) (labels : List Label) (children : List Cst) :
    readEach text (labels.map fun _ => Role.skip) children = [] := by
  induction children generalizing labels with
  | nil => cases labels <;> rfl
  | cons child rest ih =>
    cases labels with
    | nil => rfl
    | cons label labels => rw [List.map_cons, readEach, readAs_skip, List.nil_append, ih]

/-- A pass that reads what stands in one field reads the first child there. -/
theorem readEach_onField (text : Label → String) (field : String) (role : Role)
    (children : List Cst) :
    readEach text (Role.onField field role (children.map Cst.label)) children =
      match Cst.firstInField? field children with
      | none => []
      | some child => readAs text role child := by
  induction children with
  | nil => rfl
  | cons child rest ih =>
    rw [Role.onField, List.map_cons, Role.onFirst, Cst.firstInField?, List.find?_cons]
    cases child.label.field == some field with
    | true =>
      rw [if_pos rfl, readEach, readEach_skip]
      exact List.append_nil _
    | false =>
      rw [if_neg Bool.false_ne_true, readEach, readAs_skip]
      exact ih

namespace Role

variable (parent : Label) (before children : List Cst)

/-- A role for a named child; tokens are skipped. -/
def ifNamed (step : Step) (role : Role) : Role := if step.named then role else .skip

theorem onNamed_eq (role : Label → Role) :
    onNamed role (children.map Cst.label) =
      (stepsFrom parent before children).map fun step => ifNamed step (role step.child.label) := by
  induction children generalizing before with
  | nil => rfl
  | cons child after ih =>
    rw [stepsFrom, List.map_cons, List.map_cons, ← ih (before ++ [child])]
    rfl

theorem onFirst_eq (condition : Label → Bool) (role : Role)
    (fresh : before.any (fun earlier => condition earlier.label) = false) :
    onFirst condition role (children.map Cst.label) =
      (stepsFrom parent before children).map fun step =>
        if step.isFirst condition then role else .skip := by
  induction children generalizing before with
  | nil => rfl
  | cons child after ih =>
    rw [stepsFrom, List.map_cons, List.map_cons, onFirst]
    by_cases here : condition child.label = true
    · -- From here on the condition was met, so no later step is the first one.
      have met : (before ++ [child]).any (fun earlier => condition earlier.label) = true := by
        simp [here]
      have later : ((after.map Cst.label).map fun _ => Role.skip) =
          (stepsFrom parent (before ++ [child]) after).map fun step =>
            if step.isFirst condition then role else .skip := by
        rw [← Cst.stepsFrom_map_child parent (before ++ [child]) after, List.map_map, List.map_map,
          Cst.stepsFrom_map_child]
        refine List.map_congr_left fun step member => ?_
        rw [Cst.isFirst_of_met met step member]
        rfl
      rw [if_pos here, later]
      simp [Step.isFirst, here, fresh]
    · rw [if_neg here, ih (before ++ [child]) (by simpa [here] using fresh)]
      simp [Step.isFirst, here]

theorem onField_eq (field : String) (role : Role)
    (fresh : before.any (fun earlier => earlier.label.field == some field) = false) :
    onField field role (children.map Cst.label) =
      (stepsFrom parent before children).map fun step =>
        if step.isFirstIn field then role else .skip :=
  onFirst_eq parent before children _ role fresh

theorem onLaterNamed_eq (role : Role) (fresh : before.any Cst.named = false) :
    onLaterNamed role (children.map Cst.label) =
      (stepsFrom parent before children).map fun step =>
        ifNamed step (if step.before.any Cst.named then role else .skip) := by
  induction children generalizing before with
  | nil => rfl
  | cons child after ih =>
    rw [stepsFrom, List.map_cons, List.map_cons, onLaterNamed]
    by_cases here : child.label.named = true
    · have met : (before ++ [child]).any Cst.named = true := by
        simp [Cst.named, here]
      have later : onNamed (fun _ => role) (after.map Cst.label) =
          (stepsFrom parent (before ++ [child]) after).map fun step =>
            ifNamed step (if step.before.any Cst.named then role else .skip) := by
        rw [onNamed_eq parent (before ++ [child])]
        refine List.map_congr_left fun step member => ?_
        rw [if_pos (Cst.any_before met step member)]
      rw [if_pos here, later, fresh]
      simp [ifNamed]
    · rw [if_neg here, ih (before ++ [child]) (by simpa [Cst.named, here] using fresh)]
      simp [ifNamed, Step.named, Cst.named, here]

/-- Only the child directly after the token `as` meets a reader that has just passed it. -/
theorem ofHandler_eq (afterAs : Bool)
    (passed : before.getLast?.any (fun previous => !previous.named && previous.kind == "as") =
      afterAs) :
    ofHandler afterAs (children.map Cst.label) =
      (stepsFrom parent before children).map fun step =>
        ifNamed step (if step.followsAs || step.inField "alias" then .skip else .read) := by
  induction children generalizing before afterAs with
  | nil => rfl
  | cons child after ih =>
    rw [stepsFrom, List.map_cons, List.map_cons, ofHandler]
    have follows : Step.followsAs ⟨parent, before, child, after⟩ = afterAs := passed
    by_cases named : child.label.named = true
    · have next : ((before ++ [child]).getLast?.any fun previous =>
          !previous.named && previous.kind == "as") = false := by
        simp [Cst.named, named]
      by_cases hidden : (afterAs || child.label.field == some "alias") = true
      · rw [ih (before ++ [child]) false next]
        simp [ifNamed, Step.named, Step.inField, Cst.named, named, follows, hidden]
      · -- The child is read, so the token before it was not `as`.
        obtain rfl : afterAs = false := by
          cases afterAs <;> simp_all
        rw [ih (before ++ [child]) false next]
        simp only [Bool.false_or] at hidden
        simp [ifNamed, Step.named, Step.inField, Cst.named, named, follows, hidden]
    · rw [ih (before ++ [child]) (child.label.kind == "as") (by simp [Cst.named, Cst.kind, named])]
      simp [ifNamed, Step.named, Cst.named, named]

end Role

end ScopeCheck
