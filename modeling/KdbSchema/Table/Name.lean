/-!
# Qualified names

A table has a base name and possibly a namespace.  The written form is rooted: `.base` or
`.space.base`.  Names are ordered by namespace first, the absent one before all others, and then by
base name; texts compare by code point.
-/

namespace KdbSchema

structure QualifiedName where
  space : Option String
  base : String
deriving DecidableEq, Repr

namespace QualifiedName

def isRoot (n : QualifiedName) : Bool := n.space.isNone

def text (n : QualifiedName) : String :=
  match n.space with
  | some space => "." ++ space ++ "." ++ n.base
  | none => "." ++ n.base

/-- Namespaces in order: the absent one first, then by code points. -/
def SpaceBefore : Option String → Option String → Prop
  | none, none => False
  | none, some _ => True
  | some _, none => False
  | some s, some t => s < t

instance : DecidableRel SpaceBefore
  | none, none => inferInstanceAs (Decidable False)
  | none, some _ => inferInstanceAs (Decidable True)
  | some _, none => inferInstanceAs (Decidable False)
  | some s, some t => inferInstanceAs (Decidable (s < t))

instance : LT QualifiedName where
  lt m n := SpaceBefore m.space n.space ∨ m.space = n.space ∧ m.base < n.base

instance (m n : QualifiedName) : Decidable (m < n) :=
  inferInstanceAs (Decidable (SpaceBefore m.space n.space ∨ m.space = n.space ∧ m.base < n.base))

end QualifiedName

end KdbSchema
