import BraceTemplate.Data.Literal

/-!
# Values as output

What a substitution writes for a value: strings as they are, truth values in lower case, integral
numbers without a point, sequences as their items separated by commas, and everything else as it is
displayed.  A sequence inside itself writes nothing at the inner place.  What cannot be displayed
cannot be written either, nor can a sequence with such an item.

The walk through nested sequences keeps one set of those that are being joined.  It puts a sequence
in before the first of its items and takes it out behind the last, or behind the one that cannot be
written, so that every walk leaves the set as it found it; `Walked` carries this along with the
result.  `outputInside` is the same recursion with the set handed down instead of kept.
-/

namespace BraceTemplate

/-- What a walk has made, and the sequences being joined behind it, which are those before it. -/
structure Walked (α : Type) (active : List Nat) where
  result : α
  after : List Nat
  restored : after = active

namespace Value

/-- What a value writes that is no sequence. -/
def plainText (g : Graph) : Value → Except WritingFault String
  | .bool b => .ok (if b then "true" else "false")
  | .float x => .ok x.output
  | v => if v.isAbsent g then .ok "" else v.display g

mutual
/-- What a value writes in a walk that is joining the sequences `active`. -/
def write (g : Graph) (active : List Nat) (v : Value) :
    Walked (Except WritingFault String) active :=
  match v with
  | .collection place =>
    match found : g.at? place with
    | some (.list items) | some (.tuple items) =>
      if joining : place ∈ active then ⟨.ok "", active, rfl⟩
      else
        let texts := writeItems g (place :: active) items
        ⟨",".intercalate <$> texts.result, texts.after.erase place, by simp [texts.restored]⟩
    | _ => ⟨(Value.collection place).plainText g, active, rfl⟩
  | v => ⟨v.plainText g, active, rfl⟩
termination_by (g.unentered active, 0)
decreasing_by all_goals exact Prod.Lex.left _ _ (Graph.unentered_lt_of_fresh found joining)

/-- What the items of a sequence write, each in the walk that the items before it leave, up to one
that cannot be written. -/
def writeItems (g : Graph) (active : List Nat) :
    List Value → Walked (Except WritingFault (List String)) active
  | [] => ⟨.ok [], active, rfl⟩
  | v :: rest =>
    let first := write g active v
    match first.result with
    | .error w => ⟨.error w, first.after, first.restored⟩
    | .ok written =>
      let others := writeItems g first.after rest
      ⟨(written :: ·) <$> others.result, others.after, others.restored.trans first.restored⟩
termination_by items => (g.unentered active, items.length + 1)
decreasing_by
  · exact Prod.Lex.right _ (Nat.succ_pos _)
  · rw [first.restored]
    exact Prod.Lex.right _ (Nat.lt_succ_self _)
end

/-- What a value writes into the output. -/
def output (g : Graph) (v : Value) : Except WritingFault String := (v.write g []).result

/-- What a value writes while the sequences `inside` are being joined around it. -/
def outputInside (g : Graph) (inside : List Nat) : Value → Except WritingFault String
  | .bool b => .ok (if b then "true" else "false")
  | .float x => .ok x.output
  | .collection place =>
    match _ : g.enter? inside place with
    | some (.list vs) | some (.tuple vs) =>
      ",".intercalate <$> vs.mapM fun v => outputInside g (place :: inside) v
    | some (.map _) | some (.scope _) => (Value.collection place).literal g
    | none => .ok ""
  | v => if v.isAbsent g then .ok "" else v.display g
termination_by _ => g.unentered inside
decreasing_by all_goals exact Graph.unentered_cons_lt ‹_›

end Value

end BraceTemplate
