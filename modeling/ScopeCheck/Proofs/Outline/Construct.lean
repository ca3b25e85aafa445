import ScopeCheck.Proofs.Cst.Parts
import ScopeCheck.Proofs.Outline.Pass

/-!
# What a construct gives when it is read

Most constructs make a single pass over their children, in which each named child has a role of its own.
-/

namespace ScopeCheck

open Cst (Label)

variable {text : Label → String}

/-- A pass over the named children gives what each of them gives in its role. -/
theorem readEach_onNamed (role : Label → Role) (children : List Cst) :
    readEach text (Role.onNamed role (children.map Cst.label)) children =
      (children.filter Cst.named).flatMap fun child => readAs text (role child.label) child := by
  induction children with
  | nil => rfl
  | cons child rest ih =>
    -- The pass goes on to the rest with the roles of the rest.
    have split : readEach text (Role.onNamed role ((child :: rest).map Cst.label)) (child :: rest) =
        readAs text (if child.named then role child.label else .skip) child ++
          readEach text (Role.onNamed role (rest.map Cst.label)) rest := rfl
    rw [split, ih]
    cases named : child.named with
    | true => rw [if_pos rfl, List.filter_cons_of_pos named, List.flatMap_cons]
    | false =>
      rw [if_neg Bool.false_ne_true, List.filter_cons_of_neg (by simp [named]), readAs_skip,
        List.nil_append]

theorem readAs_comment {tree : Cst} (comment : tree.kind = "comment") : readAs text .read tree = [] := by
  obtain ⟨label, children⟩ := tree
  have nameless : Construct.ofKind label.kind = .nameless := by
    rw [show label.kind = "comment" from comment]
    rfl
  rw [readAs, Plan.of, Plan.ofRead, nameless]
  rfl

theorem readAs_plain {tree : Cst} (plain : Construct.ofKind tree.kind = .plain) :
    readAs text .read tree = Outline.groupUnlessEmpty tree.kind
      ((tree.children.filter Cst.named).flatMap (readAs text .read)) := by
  obtain ⟨label, children⟩ := tree
  have construct : Construct.ofKind label.kind = .plain := plain
  rw [readAs_node, Plan.of, Plan.ofRead, construct]
  exact (group_single label children _).trans
    (congrArg _ (readEach_onNamed (fun _ => .read) children))

/-- What stands in the field that is skipped gives nothing, and the other named children are read. -/
theorem readAs_skips {tree : Cst} {field : String}
    (skips : Construct.ofKind tree.kind = .skips field) :
    readAs text .read tree = Outline.groupUnlessEmpty tree.kind
      ((tree.children.filter fun child => child.named && child.label.field != some field).flatMap
        (readAs text .read)) := by
  obtain ⟨label, children⟩ := tree
  have construct : Construct.ofKind label.kind = .skips field := skips
  have passed : readEach text (Role.withField field .skip (children.map Cst.label)) children =
      (children.filter fun child => child.named && child.label.field != some field).flatMap
        (readAs text .read) := by
    -- The tokens go first, as in every pass, and then what stands in the field.
    have twice : (children.filter fun child => child.named && child.label.field != some field) =
        (children.filter Cst.named).filter fun child => child.label.field != some field := by
      rw [List.filter_filter]
      exact List.filter_congr fun child _ => Bool.and_comm _ _
    rw [Role.withField, readEach_onNamed, twice]
    have quiet : ∀ child ∈ children.filter Cst.named, (child.label.field != some field) = false →
        readAs text (if child.label.field == some field then .skip else .read) child = [] := by
      intro child _ inField
      rw [if_pos (by simpa using inField), readAs_skip]
    rw [← Cst.flatMap_filter_of_quiet quiet]
    refine List.flatMap_congr fun child member => ?_
    have kept := List.of_mem_filter member
    rw [if_neg (by simpa using kept)]
  rw [readAs_node, Plan.of, Plan.ofRead, construct]
  exact (group_single label children _).trans (congrArg _ passed)

end ScopeCheck
