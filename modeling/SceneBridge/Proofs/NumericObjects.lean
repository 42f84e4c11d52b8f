import SceneBridge.Proofs.ObjectRuns
import SceneBridge.Proofs.Overflow
import SceneBridge.Script.Start

/-!
# Numeric values as objects

An object that is a numeric value makes a list of its numbers, matrices column by column. What
makes the values of a kind gives, for a list of as many doubles as the kind has, an object that
makes the same list again.
-/

namespace SceneBridge

/-! ## Transposition -/

namespace Matrix

variable {n : Nat} {cells : List Float}

@[simp]
theorem length_transpose (n : Nat) (cells : List Float) : (transpose n cells).length = n * n := by
  simp [transpose]

/-- Reading the columns as rows twice leads back. -/
theorem transpose_transpose (h : cells.length = n * n) : transpose n (transpose n cells) = cells := by
  -- The cell in row `i / n` and column `i % n` is read from column `i / n` and row `i % n`.
  refine List.ext_getElem (by simp [h]) fun i hi hi' => ?_
  have hin : i < n * n := h ▸ hi'
  have hn : 0 < n := Nat.pos_of_ne_zero (by rintro rfl; omega)
  have hrow : i / n < n := Nat.div_lt_of_lt_mul hin
  have hcolumn : i % n < n := Nat.mod_lt i hn
  have hswap : i % n * n + i / n < n * n := by
    calc i % n * n + i / n < i % n * n + n := Nat.add_lt_add_left hrow _
      _ = (i % n + 1) * n := (Nat.succ_mul _ _).symm
      _ ≤ n * n := Nat.mul_le_mul_right n hcolumn
  have hmod : (i % n * n + i / n) % n = i / n := by
    rw [Nat.add_comm, Nat.add_mul_mod_self_right, Nat.mod_eq_of_lt hrow]
  have hdiv : (i % n * n + i / n) / n = i % n := by
    rw [Nat.add_comm, Nat.add_mul_div_right _ _ hn, Nat.div_eq_of_lt hrow, Nat.zero_add]
  have hback : i / n * n + i % n = i := Nat.div_add_mod' i n
  simp [transpose, hswap, hmod, hdiv, hback, hi']

end Matrix

/-! ## Lists of doubles -/

theorem mapM_eq_ok_map {α β γ : Type} {f : α → Except Fault β} {g : γ → α} {h : γ → β} {cs : List γ}
    (hf : ∀ c ∈ cs, f (g c) = .ok (h c)) : (cs.map g).mapM f = .ok (cs.map h) := by
  induction cs with
  | nil => rfl
  | cons c cs ih =>
    rw [List.map_cons, List.mapM_cons, hf c List.mem_cons_self,
      ih fun d hd => hf d (List.mem_cons_of_mem _ hd)]
    rfl

theorem mapM_toFloat (xs : List Float) : (xs.map Datum.float).mapM Datum.toFloat = .ok xs := by
  have hall : (xs.map Datum.float).mapM Datum.toFloat = .ok (xs.map id) :=
    mapM_eq_ok_map fun _ _ => rfl
  rwa [List.map_id] at hall

/-! ## The list of a value -/

namespace World

variable {w w' : World} {p : Nat} {kind : ValueKind} {parts : List Float}

/-- The numbers that the object at a place keeps, as its kind keeps them. A list of them is read
column by column where they are the rows of a matrix. -/
inductive Keeps (w : World) (p : Nat) : ValueKind → List Float → Prop where
  | components {kind : ValueKind} {parts : List Float} (hlayout : kind.layout = .positional)
      (hbody : (w.entity p).body = .components kind parts) : Keeps w p kind parts
  | matrix {kind : ValueKind} {q : Nat} {cells : List Float} (hlayout : kind.layout = .flat)
      (hbody : (w.entity p).body = .plain)
      (helements : (w.entity p).attributes.lookup "elements" = some (.object q))
      (hcells : (w.entity q).body = .array ⟨[kind.order, kind.order], cells⟩) :
      Keeps w p kind (Matrix.transpose kind.order cells)
  | colour {q : Nat} {parts : List Float} (hbody : (w.entity p).body = .plain)
      (hrgb : (w.entity p).attributes.lookup "rgb" = some (.object q))
      (hparts : (w.entity q).body = .array ⟨[3], parts⟩) : Keeps w p .color parts

/-- The object at a place is a value of a kind, with these numbers in its list. -/
structure IsNumeric (w : World) (p : Nat) (kind : ValueKind) (parts : List Float) : Prop where
  class_ : (w.entity p).class_ = .library (.ofValueKind kind)
  length : parts.length = kind.size
  keeps : w.Keeps p kind parts
  ownMembers : (w.entity p).attributes.lookup "to_array" = none

/-- The object at a place is a colour with these channels, and has no other attributes. -/
def IsColour (w : World) (p : Nat) (channels : List Float) : Prop :=
  ∃ q, w.entity p = { Entity.ofClass (.library .color) .plain with attributes := [("rgb", .object q)] } ∧
    (w.entity q).body = .array ⟨[3], channels⟩

theorem IsColour.isNumeric (hp : w.IsColour p parts) (hlength : parts.length = ValueKind.color.size) :
    w.IsNumeric p .color parts := by
  obtain ⟨q, hentity, hcells⟩ := hp
  refine ⟨by rw [hentity]; rfl, hlength, ?_, by rw [hentity]; rfl⟩
  exact .colour (q := q) (by rw [hentity]; rfl) (by rw [hentity]; rfl) hcells

/-- An array kept for its rows and a matrix that refers to it make the list of the columns. -/
theorem isNumeric_withMatrix (w : World) (kind : ValueKind) (hlayout : kind.layout = .flat)
    (rows : List Float) (hlength : (Matrix.transpose kind.order rows).length = kind.size) :
    let w₁ := w.withObject
      (.ofClass (.library .array) (.array ⟨[kind.order, kind.order], rows⟩))
    let matrix := { Entity.ofClass (.library (.ofValueKind kind)) .plain with
      attributes := [("elements", .object w.store.size)] }
    (w₁.withObject matrix).IsNumeric w₁.store.size kind (Matrix.transpose kind.order rows) := by
  intro w₁ matrix
  have hmatrix : (w₁.withObject matrix).entity w₁.store.size = matrix := entity_withObject_self ..
  have hrows : (w₁.withObject matrix).entity w.store.size =
      .ofClass (.library .array) (.array ⟨[kind.order, kind.order], rows⟩) :=
    (entity_withObject _ (by simp [w₁])).trans (entity_withObject_self ..)
  refine ⟨by rw [hmatrix]; rfl, hlength, ?_, by rw [hmatrix]; rfl⟩
  exact .matrix hlayout (by rw [hmatrix]; rfl) (by rw [hmatrix]; rfl) (by rw [hrows]; rfl)

/-- The value is a list of these numbers. -/
def IsFloatList (w : World) (v : Value) (xs : List Float) : Prop :=
  ∃ p, v = .object p ∧ w.entity p = .ofClass (.library .list) (.list (xs.map .float))

end World

namespace ValueKind

/-- The operation that makes the list of a value. -/
def listOperation (kind : ValueKind) : Operation :=
  match kind.layout with
  | .positional => .vector .toArray
  | .flat => .matrix .toArray
  | .text => .colour .toArray

theorem member?_toArray (kind : ValueKind) :
    ∃ owner, (LibraryClass.ofValueKind kind).member? "to_array" =
      some (owner, Member.ofOperation kind.listOperation [] "list[float]" none) := by
  cases kind <;> exact ⟨_, rfl⟩

/-- The attributes that keep numbers are no members of the classes. -/
theorem member?_elements {kind : ValueKind} (h : kind.layout = .flat) :
    (LibraryClass.ofValueKind kind).member? "elements" = none := by
  cases kind with
  | matrix3 | matrix4 => rfl
  | vector2 | vector3 | vector4 | euler | quaternion | color => cases h

theorem member?_rgb : LibraryClass.color.member? "rgb" = none := rfl

end ValueKind

namespace Act

variable {n p : Nat} {w : World} {kind : ValueKind} {parts : List Float}

theorem runs_kindOf (hw : w.HasLibrary) (kind : ValueKind) :
    Runs (kindOf (.library (.ofValueKind kind))) w kind w := by
  have hkind : ((w.nearestLibrary? (.library (.ofValueKind kind))).bind
      LibraryClass.valueKind?).getD .vector3 = kind := by
    rw [World.nearestLibrary?, hw]
    cases kind <;> rfl
  refine (runs_get w).bind ?_
  rw [hkind]
  exact runs_pure kind w

theorem runs_classOf {c : ClassId} (h : (w.entity p).class_ = c) :
    Runs (classOf (.object p)) w c w := by
  refine (runs_entity p w).bind ?_
  rw [h]
  exact runs_pure c w

theorem runs_arrayOf? {q : Nat} {a : NumArray} (h : (w.entity q).body = .array a) :
    Runs (arrayOf? (.object q)) w (some a) w := by
  refine (runs_body q w).bind ?_
  rw [h]
  exact runs_pure _ w

/-- A value makes a new list of its numbers. -/
theorem gives_toArray (hw : w.HasLibrary) (hp : w.IsNumeric p kind parts) :
    Gives ((Calls.ofDepth (n + 2)).send (.object p) "to_array" []) w fun v w' =>
      w.Extends w' ∧ w'.IsFloatList v parts := by
  obtain ⟨owner, hmember⟩ := kind.member?_toArray
  have hnew : w.Extends (w.withObject (.ofClass (.library .list) (.list (parts.map .float)))) ∧
      (w.withObject (.ofClass (.library .list) (.list (parts.map .float)))).IsFloatList
        (.object w.store.size) parts :=
    ⟨(World.Extends.refl w).withObject _, _, rfl, World.entity_withObject_self _ _⟩
  refine gives_send _ hw hp.class_ hp.ownMembers hmember (fun _ => rfl) ?_
  cases hp.keeps with
  | components hlayout hbody =>
    rw [ValueKind.listOperation, hlayout]
    refine Runs.bind_gives (a := parts) ((runs_body p w).bind ?_) ((runs_newList _ w).gives hnew)
    rw [hbody]
    exact runs_pure parts w
  | @matrix _ q cells hlayout hbody helements hcells =>
    rw [ValueKind.listOperation, hlayout]
    have hattribute : Runs ((Calls.ofDepth (n + 1)).member (.object p) "elements") w (.object q) w :=
      runs_objectMember_attribute hw hp.class_ helements fun _ _ _ _ h => by
        cases (ValueKind.member?_elements hlayout).symm.trans h
    refine Runs.bind_gives (runs_classOf hp.class_) (Runs.bind_gives (runs_kindOf hw kind) ?_)
    refine Runs.bind_gives (a := cells) (hattribute.bind ((runs_arrayOf? hcells).bind ?_))
      ((runs_newList _ w).gives hnew)
    simp only [beq_self_eq_true]
    exact runs_pure cells w
  | @colour q _ hbody hrgb hparts =>
    have hattribute : Runs ((Calls.ofDepth (n + 1)).member (.object p) "rgb") w (.object q) w :=
      runs_objectMember_attribute hw hp.class_ hrgb fun _ _ _ _ h => by
        cases ValueKind.member?_rgb.symm.trans h
    exact Runs.bind_gives (a := parts)
      (hattribute.bind ((runs_arrayOf? hparts).bind (runs_pure _ w)))
      ((runs_newList _ w).gives hnew)

end Act

/-! ## Parts of objects -/

namespace World

variable {w w' : World} {p : Nat} {name : String} {part : Entity}

/-- The state with one more object, which an attribute of another object refers to. -/
def withPart (w : World) (p : Nat) (name : String) (part : Entity) : World :=
  (w.withObject part).withChange p fun e =>
    { e with attributes := Entries.put e.attributes name (.object w.store.size) }

@[simp]
theorem size_withPart : (w.withPart p name part).store.size = w.store.size + 1 := by
  simp [withPart]

theorem entity_withPart (hp : p < w.store.size) : (w.withPart p name part).entity p =
    { w.entity p with attributes := Entries.put (w.entity p).attributes name (.object w.store.size) } := by
  rw [withPart, entity_withChange_self (by simp; omega), entity_withObject part hp]

theorem entity_withPart_new (hp : p < w.store.size) :
    (w.withPart p name part).entity w.store.size = part := by
  rw [withPart, entity_withChange (Nat.ne_of_gt hp), entity_withObject_self]

theorem Extends.withPart (h : w.Extends w') (hp : w.store.size ≤ p) (name : String) (part : Entity) :
    w.Extends (w'.withPart p name part) :=
  (h.withObject part).withChange hp _

end World

namespace Act

variable {n p : Nat} {w : World} {kind : ValueKind} {parts : List Float}

/-! ## New objects -/

section NewObjects

variable {calls : Calls} {self : Value} {name : String} {rest : List ClassId} {args : List Value}
  {named : List (String × Value)} {k l : LibraryClass} {Q : World → Prop}

theorem gives_discard {α : Type} {x : Act α} (hx : Gives x w fun _ w' => Q w') :
    Gives (discard x) w fun _ w' => Q w' := by
  exact Gives.map hx

/-- A class that does not say how its objects are made leaves it to the next one. -/
theorem gives_makeBy_inherited (hw : w.HasLibrary) (hinit : k.info.init = none)
    (hrest : Gives (makeBy calls self name rest args named) w fun _ w' => Q w') :
    Gives (makeBy calls self name (.library k :: rest) args named) w fun _ w' => Q w' := by
  refine Runs.bind_gives (runs_classInfo _ w) ?_
  simp only [hw k, hinit]
  exact hrest

theorem gives_makeBy_init (bound : Arguments) {r : Routine} (hw : w.HasLibrary)
    (hinit : k.info.init = some r)
    (hbound : ∀ callee, Arguments.bind callee r.params args named = .ok bound)
    (hcode : Gives (runCode calls self bound (fun args => makeBy calls self name rest args []) r.code)
      w fun _ w' => Q w') :
    Gives (makeBy calls self name (.library k :: rest) args named) w fun _ w' => Q w' := by
  refine Runs.bind_gives (runs_classInfo _ w) ?_
  simp only [hw k, hinit, hbound]
  exact Runs.bind_gives (runs_ofExcept bound w) (gives_discard hcode)

/-- A new object is kept first, and then made by its classes. -/
theorem gives_newObject (hw : w.HasLibrary)
    (hmake : Gives (makeBy calls (.object w.store.size) l.info.name l.info.order args named)
      (w.withObject (.ofClass (.library l) (blankBody l.info.order))) fun _ w' => Q w') :
    Gives (newObject calls (.library l) args named) w fun v w' =>
      v = .object w.store.size ∧ Q w' := by
  refine Runs.bind_gives (runs_classInfo _ w) ?_
  rw [hw l]
  refine Runs.bind_gives (runs_keep _ w) (hmake.bind fun _ w' hQ => gives_pure ⟨rfl, hQ⟩)

end NewObjects

/-! ## Vectors and rotations -/

/-- The arguments of a call are seen as the doubles that they are. -/
theorem runs_mapM_see (xs : List Float) (w : World) :
    Runs ((xs.map Value.float).mapM see) w (xs.map Datum.float) w := by
  have hseen : (xs.map Value.float).map (w.see World.depthLimit) = xs.map Datum.float := by
    rw [List.map_map]
    exact List.map_congr_left fun x _ => see_float x _
  rw [← hseen]
  exact runs_mapM fun v _ => runs_see v w

theorem gives_makeComponents (calls : Calls) (name : String) (hw : w.HasLibrary)
    (hclass : (w.entity p).class_ = .library (.ofValueKind kind)) (hlength : parts.length = kind.size) :
    Gives (makeBy calls (.object p) name [.library .components] (parts.map .float) []) w fun _ w' =>
      w' = w.withChange p ({ · with body := .components kind parts }) := by
  have hbound (callee : String) : Arguments.bind callee Library.makeComponents.params
      (parts.map .float) [] = .ok ⟨[], parts.map .float, some "components", [], none⟩ := by
    cases parts <;> rfl
  refine gives_makeBy_init _ hw rfl hbound ?_
  refine Runs.bind_gives (runs_classOf hclass) (Runs.bind_gives (runs_kindOf hw kind) ?_)
  refine Runs.bind_gives (runs_mapM_see parts w) ?_
  have hfew : ¬ (parts.map Datum.float).length > kind.size := by simp [hlength]
  simp only [if_neg hfew, mapM_toFloat]
  refine Runs.bind_gives (runs_ofExcept parts w) ?_
  refine Runs.bind_gives (runs_change p _ w) (gives_pure ?_)
  simp [hlength]

/-- The classes of a vector or a rotation hand all components on to the last one. -/
theorem gives_makePositional (calls : Calls) (name : String) (hw : w.HasLibrary)
    (hlayout : kind.layout = .positional)
    (hclass : (w.entity p).class_ = .library (.ofValueKind kind)) (hlength : parts.length = kind.size) :
    Gives (makeBy calls (.object p) name (LibraryClass.ofValueKind kind).info.order
      (parts.map .float) []) w fun _ w' =>
        w' = w.withChange p ({ · with body := .components kind parts }) := by
  have hbase := gives_makeComponents calls name hw hclass hlength
  cases kind with
  | vector2 | vector3 | vector4 =>
    exact gives_makeBy_inherited hw rfl (gives_makeBy_inherited hw rfl hbase)
  | euler => exact gives_makeBy_inherited hw rfl hbase
  | quaternion =>
    obtain ⟨x, y, z, u, rfl⟩ : ∃ x y z u, parts = [x, y, z, u] := by
      match parts, hlength with
      | [x, y, z, u], _ => exact ⟨x, y, z, u, rfl⟩
    refine gives_makeBy_init _ hw rfl (fun _ => rfl) ?_
    exact hbase.bind fun _ w' hw' => gives_pure hw'
  | matrix3 | matrix4 | color => cases hlayout

/-- A new object of a class of vectors or rotations has the numbers that it is made of. -/
theorem gives_newPositional {calls : Calls} (hw : w.HasLibrary)
    (hlayout : kind.layout = .positional) (hlength : parts.length = kind.size) :
    Gives (newObject calls (.library (.ofValueKind kind)) (parts.map .float) []) w fun v w' =>
      w.Extends w' ∧ ∃ q, v = .object q ∧ w'.IsNumeric q kind parts := by
  let e : Entity := .ofClass (.library (.ofValueKind kind))
    (blankBody (LibraryClass.ofValueKind kind).info.order)
  have hnew : (w.withObject e).entity w.store.size = e := World.entity_withObject_self w e
  have hsize : w.store.size < (w.withObject e).store.size := by simp
  have hmake := gives_makePositional (w := w.withObject e) (p := w.store.size) calls
    (LibraryClass.ofValueKind kind).info.name hw hlayout (by rw [hnew]; rfl) hlength
  refine (gives_newObject hw hmake).mono ?_
  rintro _ _ ⟨rfl, rfl⟩
  have hchanged := World.entity_withChange_self
    (f := fun e => { e with body := .components kind parts }) hsize
  rw [hnew] at hchanged
  refine ⟨((World.Extends.refl w).withObject e).withChange (Nat.le_refl _) _, _, rfl, ?_⟩
  exact ⟨by rw [hchanged]; rfl, hlength, .components hlayout (by rw [hchanged]), by rw [hchanged]; rfl⟩

/-! ## Colours -/

theorem runs_rgb {v : Value} (hw : w.HasLibrary) (hentity : w.entity p =
    { Entity.ofClass (.library .color) .plain with attributes := [("rgb", v)] }) :
    Runs ((Calls.ofDepth (n + 1)).member (.object p) "rgb") w v w :=
  runs_objectMember_attribute (l := .color) hw (by rw [hentity]; rfl) (by rw [hentity]; rfl)
    fun _ _ _ _ h => by cases ValueKind.member?_rgb.symm.trans h

/-- A new colour is white at first, and has its channels set then to those of what it is made of.
The arguments must be seen alike in every state, as numbers and texts are. -/
theorem gives_newColour {args : List Value} {ds : List Datum} (hw : w.HasLibrary) (hargs : args ≠ [])
    (hseen : ∀ w : World, args.map (w.see World.depthLimit) = ds) (hparts : Colour.ofData ds = .ok parts) :
    Gives (newObject (Calls.ofDepth (n + 2)) (.library .color) args []) w fun v w' =>
      w.Extends w' ∧ ∃ q, v = .object q ∧ w'.IsColour q parts := by
  let p := w.store.size
  let w₁ := w.withObject (.ofClass (.library .color) .plain)
  let q := w₁.store.size
  let w₂ := w₁.withPart p "rgb" (.ofClass (.library .array) (.array ⟨[3], [1, 1, 1]⟩))
  let w₃ := w₂.withChange q ({ · with body := .array ⟨[3], parts⟩ })
  have hp : p < w₁.store.size := by simp [w₁, p]
  have hpq : p ≠ q := Nat.ne_of_lt hp
  have hw₁ : w₁.entity p = .ofClass (.library .color) .plain := World.entity_withObject_self ..
  have hw₂ : w₂.entity p = { Entity.ofClass (.library .color) .plain with
      attributes := [("rgb", .object q)] } := by
    rw [World.entity_withPart hp, hw₁]
    rfl
  have hnew : w₂.entity q = .ofClass (.library .array) (.array ⟨[3], [1, 1, 1]⟩) :=
    World.entity_withPart_new hp
  have hw₃ : w₃.entity p = w₂.entity p := World.entity_withChange hpq
  have hcells : (w₃.entity q).body = .array ⟨[3], parts⟩ := by
    rw [World.entity_withChange_self (by simp [w₂, q])]
  have hbound (callee : String) : Arguments.bind callee [(Param.rest "args").noted "Any"] args [] =
      .ok ⟨[], args, some "args", [], none⟩ := by
    cases args <;> rfl
  -- The channels are set in the array that the colour was made with.
  have hset : Gives ((Calls.ofDepth (n + 2)).send (.object p) "set" args) w₂ fun _ w' => w' = w₃ := by
    refine gives_send (l := .color) ⟨[], args, some "args", [], none⟩ hw
      (by rw [hw₂]; rfl) (by rw [hw₂]; rfl) rfl hbound ?_
    have hdata : Runs (args.mapM see) w₂ ds w₂ := by
      rw [← hseen w₂]
      exact runs_mapM fun v _ => runs_see v w₂
    refine Runs.bind_gives hdata ?_
    rw [hparts]
    refine Runs.bind_gives (runs_ofExcept parts w₂) ?_
    exact Runs.bind_gives ((runs_rgb (w := w₂) hw hw₂).bind (runs_change q _ w₂)) (gives_pure rfl)
  have hmake : Gives (makeBy (Calls.ofDepth (n + 2)) (.object p) "Color" [.library .color] args []) w₁
      fun _ w' => w' = w₃ := by
    refine gives_makeBy_init ⟨[], args, some "args", [], none⟩ hw rfl hbound ?_
    refine Runs.bind_gives (runs_newArray _ w₁) ?_
    have hkept := World.entity_withObject (.ofClass (.library .array) (.array ⟨[3], [1, 1, 1]⟩)) hp
    refine Runs.bind_gives (runs_setMember (l := .color) hw (by rw [hkept, hw₁]; rfl)
      (by rw [hkept, hw₁]; rfl) ValueKind.member?_rgb (by decide) rfl (by decide)) ?_
    have hsome : (!args.isEmpty) = true := by simpa using hargs
    rw [if_pos hsome]
    exact hset.bind fun _ w' hw' => gives_pure hw'
  refine (gives_newObject hw hmake).mono ?_
  rintro _ _ ⟨rfl, rfl⟩
  have hextends : w.Extends w₃ :=
    (((World.Extends.refl w).withObject _).withPart (Nat.le_refl _) _ _).withChange (Nat.le_of_lt hp) _
  exact ⟨hextends, p, rfl, q, hw₃.trans hw₂, hcells⟩

/-! ## Matrices -/

/-- Setting the elements of an object of a class of matrices sets an attribute. -/
theorem runs_setElements {v : Value} (hw : w.HasLibrary) (hlayout : kind.layout = .flat)
    (hclass : (w.entity p).class_ = .library (.ofValueKind kind))
    (hbody : (w.entity p).body = .plain) :
    Runs ((Calls.ofDepth (n + 1)).setMember (.object p) "elements" v) w ()
      (w.withChange p fun e => { e with attributes := Entries.put e.attributes "elements" v }) := by
  cases kind with
  | matrix3 | matrix4 =>
    exact runs_setMember hw hclass hbody (ValueKind.member?_elements hlayout) (by decide) rfl
      (by decide)
  | vector2 | vector3 | vector4 | euler | quaternion | color => cases hlayout

/-- An object of a class of matrices is given a new array of elements. -/
theorem runs_giveElements (a : NumArray) (hw : w.HasLibrary) (hlayout : kind.layout = .flat)
    (hp : p < w.store.size) (hclass : (w.entity p).class_ = .library (.ofValueKind kind))
    (hbody : (w.entity p).body = .plain) :
    Runs (do
        (Calls.ofDepth (n + 1)).setMember (.object p) "elements" (← newArray a)
        return Value.object p) w (.object p)
      (w.withPart p "elements" (.ofClass (.library .array) (.array a))) := by
  have hkept := World.entity_withObject (.ofClass (.library .array) (.array a)) hp
  have hset := runs_setElements (n := n) (w := w.withObject (.ofClass (.library .array) (.array a)))
    (v := .object w.store.size) hw hlayout (hkept ▸ hclass) (hkept ▸ hbody)
  exact (runs_newArray a w).bind (hset.bind (runs_pure _ _))

/-- The object that a class of matrices makes first: a new one, with elements of its own. -/
theorem gives_newMatrix (hw : w.HasLibrary) (hlayout : kind.layout = .flat) :
    Gives (newObject (Calls.ofDepth (n + 1)) (.library (.ofValueKind kind)) [] []) w fun v w' =>
      v = .object w.store.size ∧ w.Extends w' ∧ w.store.size < w'.store.size ∧
        ∃ elements, w'.entity w.store.size =
          { Entity.ofClass (.library (.ofValueKind kind)) .plain with
            attributes := [("elements", elements)] } := by
  let p := w.store.size
  let w₁ := w.withObject (.ofClass (.library (.ofValueKind kind)) .plain)
  let w₂ := w₁.withPart p "elements" (.ofClass (.library .array)
    (.array ⟨[kind.order, kind.order], Matrix.identity kind.order⟩))
  have hp : p < w₁.store.size := by simp [w₁, p]
  have hw₁ : w₁.entity p = .ofClass (.library (.ofValueKind kind)) .plain :=
    World.entity_withObject_self ..
  have hw₂ : w₂.entity p = { Entity.ofClass (.library (.ofValueKind kind)) .plain with
      attributes := [("elements", .object w₁.store.size)] } := by
    rw [World.entity_withPart hp, hw₁]
    rfl
  have hinit : Gives (makeBy (Calls.ofDepth (n + 1)) (.object p)
      (LibraryClass.ofValueKind kind).info.name [.library .matrix] [] []) w₁ fun _ w' => w' = w₂ := by
    refine gives_makeBy_init _ hw rfl (fun _ => rfl) ?_
    refine Runs.bind_gives (runs_classOf (by rw [hw₁])) ?_
    refine Runs.bind_gives (runs_kindOf (w := w₁) hw kind) ?_
    have helements := runs_giveElements (n := n) ⟨[kind.order, kind.order], Matrix.identity kind.order⟩
      (w := w₁) hw hlayout hp (by rw [hw₁]; rfl) (by rw [hw₁]; rfl)
    exact Runs.bind_gives helements (gives_pure rfl)
  have hmake : Gives (makeBy (Calls.ofDepth (n + 1)) (.object p) (LibraryClass.ofValueKind kind).info.name
      (LibraryClass.ofValueKind kind).info.order [] [])
      (w.withObject (.ofClass (.library (.ofValueKind kind))
        (blankBody (LibraryClass.ofValueKind kind).info.order))) fun _ w' => w' = w₂ := by
    cases kind with
    | matrix3 | matrix4 => exact gives_makeBy_inherited hw rfl hinit
    | vector2 | vector3 | vector4 | euler | quaternion | color => cases hlayout
  refine (gives_newObject hw hmake).mono ?_
  rintro _ _ ⟨rfl, rfl⟩
  refine ⟨rfl, ?_, ?_, _, hw₂⟩
  · exact ((World.Extends.refl w).withObject _).withPart (Nat.le_refl _) _ _
  · rw [World.size_withPart]
    exact Nat.lt_succ_of_lt hp

/-- A list of doubles stands for an array of them. -/
theorem toArray_floats (xs : List Float) :
    ∃ shape, (Datum.list (xs.map .float)).toArray = .ok ⟨shape, xs⟩ := by
  have hquantities : xs.map Datum.float = (xs.map Number.Quantity.real).map Datum.ofQuantity := by
    rw [List.map_map]
    rfl
  obtain ⟨shape, hshape⟩ := arrayShape_ofQuantity (xs.map .real)
  have hcells : (Datum.list (xs.map .float)).arrayCells = .ok xs := by
    rw [Datum.arrayCells, hquantities, arraysCells_ofQuantity, ← hquantities, mapM_toFloat]
  rw [← hquantities] at hshape
  refine ⟨shape, ?_⟩
  rw [Datum.toArray, hshape, hcells]
  rfl

theorem ofElements_floats (hlength : parts.length = kind.size) (name : String) :
    kind.ofElements name (.list (parts.map .float)) = .ok parts := by
  obtain ⟨shape, harray⟩ := toArray_floats parts
  rw [ValueKind.ofElements, harray, ok_bind]
  simp [Grid.size, hlength, pure, Except.pure]

/-- A matrix made from a list keeps the list column by column. -/
theorem gives_fromArray {v : Value} (hw : w.HasLibrary) (hlayout : kind.layout = .flat)
    (hlength : parts.length = kind.size) (hv : w.IsFloatList v parts) :
    Gives ((Calls.ofDepth (n + 3)).call kind.factory [v] []) w fun v w' =>
      w.Extends w' ∧ ∃ q, v = .object q ∧ w'.IsNumeric q kind parts := by
  obtain ⟨list, rfl, hlist⟩ := hv
  have hmatrix : kind.factory = .callable (.method kind.classRef (.library .matrix) "from_array") ∧
      kind.size = kind.order * kind.order := by
    cases kind with
    | matrix3 | matrix4 => exact ⟨rfl, rfl⟩
    | vector2 | vector3 | vector4 | euler | quaternion | color => cases hlayout
  have hseen : w.see World.depthLimit (.object list) = .list (parts.map .float) :=
    see_floats (by rw [hlist]; rfl) 59
  rw [hmatrix.1]
  refine gives_callMethod ⟨[("values", .object list)], [], none, [], none⟩ hw
    (.inr ⟨.class_, rfl⟩) rfl (fun _ => rfl) ?_
  refine Runs.bind_gives (runs_pure _ w) (Runs.bind_gives (runs_kindOf hw kind) ?_)
  refine Runs.bind_gives (runs_get w) (Runs.bind_gives (runs_see _ w) ?_)
  simp only [Invocation.arg, Arguments.get, List.lookup_cons_self, Option.getD_some, hseen,
    ofElements_floats hlength]
  refine Runs.bind_gives (runs_ofExcept parts w) ((gives_newMatrix hw hlayout).bind ?_)
  rintro _ w₁ ⟨rfl, hw₁, hp, elements, hentity⟩
  let p := w.store.size
  let q := w₁.store.size
  let cells : NumArray := ⟨[kind.order, kind.order], Matrix.transpose kind.order parts⟩
  let w₂ := w₁.withPart p "elements" (.ofClass (.library .array) (.array cells))
  have hw₂ : w₂.entity p = { Entity.ofClass (.library (.ofValueKind kind)) .plain with
      attributes := [("elements", .object q)] } := by
    rw [World.entity_withPart hp, hentity]
    rfl
  have hcells : (w₂.entity q).body = .array cells := by
    rw [World.entity_withPart_new hp]
    rfl
  have helements := runs_giveElements (n := n + 1) cells (hw.extends hw₁) hlayout hp
    (by rw [hentity]; rfl) (by rw [hentity]; rfl)
  refine helements.gives ?_
  refine ⟨hw₁.withPart (Nat.le_refl _) _ _, p, rfl, ?_⟩
  -- The list was kept as columns, which makes the list read as columns the list itself.
  have hkeeps := World.Keeps.matrix hlayout (by rw [hw₂]; rfl) (by rw [hw₂]; rfl) hcells
  rw [Matrix.transpose_transpose (hlength.trans hmatrix.2)] at hkeeps
  exact ⟨by rw [hw₂]; rfl, hlength, hkeeps, by rw [hw₂]; rfl⟩

end Act

end SceneBridge
