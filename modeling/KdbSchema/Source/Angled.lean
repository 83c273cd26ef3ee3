/-!
# Lists between angle brackets

Lifetimes are shown before everything else in such a list, whatever the order in which it is
written.
-/

namespace KdbSchema.Source

structure AngledEntry where
  isLifetime : Bool
  text : String
deriving DecidableEq, Repr

/-- The text of a list between angle brackets.  Every entry keeps the comma that follows it where it
is written; one is added where a lifetime without comma comes before others. -/
def angledText (entries : List AngledEntry) (endsWithComma : Bool) : String :=
  let marked := entries.mapIdx fun n e => (e, n + 1 < entries.length || endsWithComma)
  let (lifetimes, others) := marked.partition fun m => m.1.isLifetime
  let written := fun (m : AngledEntry × Bool) => if m.2 then m.1.text ++ "," else m.1.text
  let gap := if others.isEmpty || lifetimes.all (·.2) then "" else ","
  "<" ++ String.join (lifetimes.map written) ++ gap ++ String.join (others.map written) ++ ">"

end KdbSchema.Source
