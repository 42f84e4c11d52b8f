/-!
# Type expressions

The types that documentation gives to properties, parameters and results: a
name, a list, a choice of alternatives, a named type with parameters, or a record
of named fields.
-/

namespace SceneBridge

/-- A type as documentation writes it. -/
inductive TypeExpr where
  /-- A name that is not taken apart further. -/
  | scalar (name : String)
  /-- A list whose items all have one type. -/
  | array (element : TypeExpr)
  /-- Alternatives, tried in this order. -/
  | union (alternatives : List TypeExpr)
  /-- A named type with parameters. -/
  | generic (name : String) (params : List TypeExpr)
  /-- Named fields, in the order of their first mention. -/
  | record (fields : List (String × TypeExpr))
deriving Repr, Inhabited

namespace TypeExpr

/-- The type of a value about which nothing is known. -/
def any : TypeExpr := .scalar "any"

/-! ## Induction -/

/-- Induction on types, from the parts of a type to the type. -/
@[elab_as_elim, induction_eliminator]
theorem induction {motive : TypeExpr → Prop} (scalar : ∀ name, motive (.scalar name))
    (array : ∀ element, motive element → motive (.array element))
    (union : ∀ as, (∀ a ∈ as, motive a) → motive (.union as))
    (generic : ∀ name params, (∀ p ∈ params, motive p) → motive (.generic name params))
    (record : ∀ fields, (∀ f ∈ fields, motive f.2) → motive (.record fields)) (t : TypeExpr) :
    motive t :=
  @TypeExpr.rec motive (fun ts => ∀ t ∈ ts, motive t) (fun fs => ∀ f ∈ fs, motive f.2)
    (fun f => motive f.2) scalar array union generic record nofun
    (fun _ _ ht hts => List.forall_mem_cons.2 ⟨ht, hts⟩) nofun
    (fun _ _ hf hfs => List.forall_mem_cons.2 ⟨hf, hfs⟩) (fun _ _ ht => ht) t

/-! ## Equality -/

mutual

/-- Do two types say the same? The order of record fields does not matter, any
other order does. -/
def same : TypeExpr → TypeExpr → Bool
  | .scalar a, .scalar b => a == b
  | .array a, .array b => same a b
  | .union as, .union bs => sameAll as bs
  | .generic n as, .generic m bs => n == m && sameAll as bs
  | .record as, .record bs => as.length == bs.length && sameFields as bs
  | _, _ => false

/-- Do two lists of types say the same, place by place? -/
def sameAll : List TypeExpr → List TypeExpr → Bool
  | [], [] => true
  | a :: as, b :: bs => same a b && sameAll as bs
  | _, _ => false

/-- Has every field of the first list a field of the same name and type in the second? -/
def sameFields : List (String × TypeExpr) → List (String × TypeExpr) → Bool
  | [], _ => true
  | (k, a) :: as, bs =>
    (match bs.lookup k with
      | some b => same a b
      | none => false) && sameFields as bs

end

end TypeExpr

end SceneBridge
