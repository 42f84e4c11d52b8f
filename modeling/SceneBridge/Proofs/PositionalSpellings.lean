import SceneBridge.Proofs.Components
import SceneBridge.Proofs.ListTexts
import SceneBridge.Proofs.Spellings

/-!
# Spellings of positional values

A vector or a rotation is asked for by its name alone, or by its name with the types of its
components behind it. The name alone coerces all components of a text first, and leaves the text as
it is if one of them is no number. With the types, the components that are no numbers are handed to
the constructor as they are, and the constructor reads them once more in its own way. So the two
spellings differ where the constructor does not come to refuse what the coercion refused.
-/

namespace SceneBridge

open Text Number

/-! ## Names -/

namespace ValueKind

variable {kind : ValueKind}

/-- The name of the kind with the types of its components. -/
def longName (kind : ValueKind) : String :=
  kind.name ++ "<" ++ join "," (List.replicate kind.size "number") ++ ">"

theorem ofText_name (kind : ValueKind) : TypeExpr.ofText false kind.name = .scalar kind.name := by
  have hformed : TypeExpr.WellFormed false (.scalar kind.name) := by
    refine .scalar ?_
    cases kind <;> decide
  have htext : TypeExpr.format (.scalar kind.name) = kind.name := String.ofList_toList
  have hread := hformed.ofText_format
  rwa [htext] at hread

theorem ofText_longName (kind : ValueKind) :
    TypeExpr.ofText false kind.longName =
      .generic kind.name (List.replicate kind.size (.scalar "number")) := by
  have hname : TypeExpr.IsIdentifier kind.name ∧ kind.name ≠ "Array" ∧ kind.size ≠ 0 := by
    cases kind <;> decide
  have hnumber : TypeExpr.WellFormed false (.scalar "number") := .scalar (by decide)
  have hparts : ∀ w ∈ List.replicate kind.size "number".toList, Brackets.Balanced (· ≠ ',') w := by
    intro w hw
    rw [List.eq_of_mem_replicate hw]
    exact hnumber.noComma
  have hread (n : Nat) : List.Forall₂ (TypeExpr.Reads false) (List.replicate n "number".toList)
      (List.replicate n (.scalar "number")) := by
    induction n with
    | zero => exact .nil
    | succ n ih => exact .cons (TypeExpr.reads_of_parse hnumber.parse_chars) ih
  have hgeneric := TypeExpr.reads_generic_of_parts hname.1 hname.2.1 (.inl rfl)
    (by simpa using hname.2.2) hparts (hread kind.size)
  have htext : kind.longName.toList = kind.name.toList ++ [] ++
      '<' :: ([','].intercalate (List.replicate kind.size "number".toList) ++ ['>']) := by
    rw [longName]
    simp only [String.toList_append, toList_join, List.map_replicate]
    simp
  rw [TypeExpr.ofText, htext, hgeneric.parse]

theorem ofTypeName?_name (kind : ValueKind) : ofTypeName? kind.name = some kind := by
  cases kind <;> decide +kernel

theorem construct_positional (hkind : kind.layout = .positional) (args : List Datum) :
    kind.construct args = kind.ofComponents kind.name args := by
  cases kind <;> first | rfl | cases hkind

end ValueKind

/-! ## Where the spellings differ -/

/-- The coercion refuses the part, but the constructor reads it, as they do with `+nan`. -/
def IsMisread (p : List Char) : Prop :=
  readQuantity? p = none ∧ (readFloat? p).isSome = true

/-- The constructor makes a double of the part. -/
inductive IsDouble (p : List Char) : Prop
  | real {x : Float} (hp : readQuantity? p = some (.real x)) : IsDouble p
  | whole {n : Int} (hp : readQuantity? p = some (.whole n)) (hn : n.natAbs < tooLarge) : IsDouble p
  | misread (hp : IsMisread p) : IsDouble p

/-- The coercion refuses one of the parts, but the constructor is handed all of them and does not
refuse that one: it reads it, or fails at an integer that no double holds before it comes to a part
that it refuses. -/
inductive Slips (ps : List (List Char)) : Prop
  | misread {p : List Char} (hmem : p ∈ ps) (hp : IsMisread p) (hall : ∀ q ∈ ps, IsDouble q) :
    Slips ps
  | large {before after : List (List Char)} {p q : List Char} {n : Int}
    (hps : ps = before ++ p :: after) (hbefore : ∀ b ∈ before, IsDouble b)
    (hp : readQuantity? p = some (.whole n)) (hn : tooLarge ≤ n.natAbs) (hmem : q ∈ ps)
    (hq : readQuantity? q = none) : Slips ps

/-- Something was refused. -/
theorem Slips.exists_refused {ps : List (List Char)} (h : Slips ps) :
    ∃ p ∈ ps, readQuantity? p = none := by
  cases h with
  | misread hmem hp _ => exact ⟨_, hmem, hp.1⟩
  | large _ _ _ _ hmem hq => exact ⟨_, hmem, hq⟩

/-- Both conversions of the text give values of the kind with the same components, both leave the
text as it is, or both fail. -/
inductive Agree (kind : ValueKind) (s : String) : Except Fault Datum → Except Fault Datum → Prop
  | value {who who' : Identity} {parts : List Float} :
    Agree kind s (.ok (.value who kind parts)) (.ok (.value who' kind parts))
  | text : Agree kind s (.ok (.text s)) (.ok (.text s))
  | fault {f g : Fault} : Agree kind s (.error f) (.error g)

namespace Conversion

variable {kind : ValueKind} {s : String} {p : List Char} {f : Fault}

/-! ## Parts that are handed on -/

/-- What the constructor is handed for a part of a text: its number, or else the part itself. -/
def handed (p : List Char) : Datum :=
  match readQuantity? p with
  | some q => .ofQuantity q
  | none => .text (String.ofList p)

theorem toNumber_part (p : List Char) :
    (Datum.text (String.ofList p)).toNumber =
      match readQuantity? p with
      | some q => .ok q
      | none => .error (.notNumber (.text (String.ofList p))) := by
  cases hp : readQuantity? p <;> simp [Datum.toNumber, hp]

theorem convertAs_part (p : List Char) :
    convertAs dataSurroundings false (.text (String.ofList p)) (.scalar "number") =
      .ok (handed p) := by
  rw [convertAs_primitive (d := .text (String.ofList p)) (p := .number) nofun rfl, coerce_number,
    toNumber_part, handed]
  cases readQuantity? p <;> rfl

theorem toFloat_text (p : List Char) :
    (Datum.text (String.ofList p)).toFloat =
      (readFloat? p).elim (.error (.floatText (String.ofList p))) .ok := by
  cases hp : readFloat? p <;> simp [Datum.toFloat, hp]

theorem toFloat_handed_eq_ok_iff : (∃ x, (handed p).toFloat = .ok x) ↔ IsDouble p := by
  unfold handed
  cases hp : readQuantity? p with
  | some q =>
    dsimp only
    rw [toFloat_ofQuantity, Quantity.toFloat_returns_iff]
    constructor
    · intro h
      cases q with
      | real x => exact .real hp
      | whole n => exact .whole hp (h n rfl)
    · rintro h n rfl
      cases h with
      | real hreal => cases hp.symm.trans hreal
      | whole hwhole hn =>
        cases hp.symm.trans hwhole
        exact hn
      | misread hmisread => cases hp.symm.trans hmisread.1
  | none =>
    dsimp only
    rw [toFloat_text]
    cases hread : readFloat? p with
    | some x => exact iff_of_true ⟨x, rfl⟩ (.misread ⟨hp, Option.isSome_of_eq_some hread⟩)
    | none =>
      refine iff_of_false nofun fun h => ?_
      cases h with
      | real hreal => cases hp.symm.trans hreal
      | whole hwhole => cases hp.symm.trans hwhole
      | misread hmisread =>
        have hsome := hmisread.2
        rw [hread] at hsome
        cases hsome

theorem toFloat_handed_eq_error_iff :
    (handed p).toFloat = .error f ∧ isBuildKind f.kind = false ↔
      f = .intTooLarge ∧ ∃ n, readQuantity? p = some (.whole n) ∧ tooLarge ≤ n.natAbs := by
  unfold handed
  cases hp : readQuantity? p with
  | some q =>
    dsimp only
    rw [toFloat_ofQuantity, Quantity.toFloat_eq_error_iff]
    simp only [Option.some.injEq]
    exact and_iff_left_of_imp fun h => not_caught_of_large h.1
  | none =>
    -- A part that is no number is refused by a fault that is caught.
    refine iff_of_false ?_ nofun
    dsimp only
    rw [toFloat_text]
    rintro ⟨hfault, hkind⟩
    cases hread : readFloat? p with
    | some x =>
      rw [hread] at hfault
      cases hfault
    | none =>
      rw [hread] at hfault
      cases hfault
      cases hkind

section AllParts

variable {ps : List (List Char)}

theorem mapM_handed_eq_ok_iff :
    (∃ xs, (ps.map handed).mapM Datum.toFloat = .ok xs) ↔ ∀ q ∈ ps, IsDouble q := by
  rw [List.mapM_map, mapM_returns_iff]
  simp only [Function.comp_apply, toFloat_handed_eq_ok_iff]

theorem mapM_handed_eq_error_iff :
    (ps.map handed).mapM Datum.toFloat = .error f ∧ isBuildKind f.kind = false ↔
      f = .intTooLarge ∧ ∃ before p after n, ps = before ++ p :: after ∧
        (∀ b ∈ before, IsDouble b) ∧ readQuantity? p = some (.whole n) ∧ tooLarge ≤ n.natAbs := by
  rw [List.mapM_map, mapM_eq_error_iff]
  simp only [Function.comp_apply, toFloat_handed_eq_ok_iff]
  constructor
  · rintro ⟨⟨before, p, after, hps, hbefore, hp⟩, hkind⟩
    obtain ⟨rfl, n, hn, hlarge⟩ := toFloat_handed_eq_error_iff.1 ⟨hp, hkind⟩
    exact ⟨rfl, before, p, after, n, hps, hbefore, hn, hlarge⟩
  · rintro ⟨rfl, before, p, after, n, hps, hbefore, hn, hlarge⟩
    obtain ⟨hp, hkind⟩ := toFloat_handed_eq_error_iff.2 ⟨rfl, n, hn, hlarge⟩
    exact ⟨⟨before, p, after, hps, hbefore, hp⟩, hkind⟩

end AllParts

/-! ## The two conversions -/

/-- What becomes of a text whose parts are handed to the constructor. -/
def built (kind : ValueKind) (s : String) (args : List Datum) : Except Fault Datum :=
  match args.mapM Datum.toFloat with
  | .ok parts => .ok (.value (.ofClass kind.name) kind (parts ++ kind.blank.drop parts.length))
  | .error f => if isBuildKind f.kind then .ok (.text s) else .error f

theorem orDegrade_build (hkind : kind.layout = .positional) {args : List Datum}
    (hcount : args.length ≤ kind.size) (t : TypeExpr) (reason : Fault → Reason) :
    orDegrade dataSurroundings false (.text s) t isBuildKind reason
      (dataSurroundings.build kind args) = built kind s args := by
  -- There are not too many components, so that building only fails where reading them does.
  have hbuild : dataSurroundings.build kind args = (do
      let parts ← args.mapM Datum.toFloat
      return .value (.ofClass kind.name) kind (parts ++ kind.blank.drop parts.length)) := by
    have hconstruct : dataSurroundings.build kind args = (do
        let parts ← kind.construct args
        return .value (.ofClass kind.name) kind parts) := rfl
    rw [hconstruct, ValueKind.construct_positional hkind, ValueKind.ofComponents,
      if_neg (Nat.not_lt.2 hcount)]
    simp only [bind_assoc, pure_bind]
  rw [hbuild, built]
  cases args.mapM Datum.toFloat with
  | ok parts => rfl
  | error f => rfl

theorem zip_replicate {α β : Type} {as : List α} {n : Nat} (b : β) (h : as.length ≤ n) :
    as.zip (List.replicate n b) = as.map fun a => (a, b) := by
  induction as generalizing n with
  | nil => rfl
  | cons a as ih =>
    cases n with
    | zero => cases h
    | succ n =>
      have hrest := ih (Nat.le_of_succ_le_succ h)
      rw [List.replicate_succ, List.zip_cons_cons, hrest, List.map_cons]

theorem convertAs_long (hkind : kind.layout = .positional)
    (hcount : (splitValues s.toList none).length ≤ kind.size) :
    convertAs dataSurroundings false (.text s)
      (.generic kind.name (List.replicate kind.size (.scalar "number"))) =
        built kind s ((splitValues s.toList none).map handed) := by
  let texts := (splitValues s.toList none).map fun p => Datum.text (String.ofList p)
  have hparts : genericParts? dataSurroundings (.text s)
      (List.replicate kind.size (TypeExpr.scalar "number")).length = .ok (some texts) := by
    have hcollect : (splitValues s.toList none).mapM
        (fun p => dataSurroundings.ofDatum (.text (String.ofList p))) = .ok texts :=
      List.mapM_pure
    rw [List.length_replicate, genericParts?, see_bind]
    dsimp only
    rw [List.take_of_length_le hcount, hcollect]
    rfl
  -- No part is cut off, and none of the coercions stops the conversion.
  have hargs : convertParts dataSurroundings false texts
      (List.replicate kind.size (.scalar "number")) =
        .ok ((splitValues s.toList none).map handed) := by
    rw [convertParts_eq_mapM, zip_replicate _ (by simpa [texts] using hcount), List.map_map,
      List.mapM_map]
    simp only [Function.comp_def, convertAs_part]
    exact List.mapM_pure
  rw [convertAs_generic_eq kind.ofTypeName?_name hparts, hargs, ok_bind]
  exact orDegrade_build hkind (by simpa using hcount) _ _

theorem convertAs_short (hkind : kind.layout = .positional) :
    convertAs dataSurroundings false (.text s) (.scalar kind.name) =
      orDegrade dataSurroundings false (.text s) (.scalar kind.name) isBuildKind
        (.construction kind.name)
        ((Datum.text s).components >>= buildFrom dataSurroundings kind) := by
  have hother : dataSurroundings.accepts kind (.text s) = .ok false := rfl
  rw [convertAs_value (d := .text s) nofun kind.ofTypeName?_name]
  obtain heq | ⟨-, -, hcolour, -⟩ := buildValue_eq hother
  · rw [heq]
  · rw [hcolour] at hkind
    cases hkind

theorem convertAs_short_of_numbers (hkind : kind.layout = .positional)
    (hcount : (splitComponents s.toList).length ≤ kind.size)
    (hall : ∀ p ∈ splitComponents s.toList, readQuantity? p ≠ none) :
    convertAs dataSurroundings false (.text s) (.scalar kind.name) =
      built kind s ((splitComponents s.toList).map handed) := by
  have hnumbers {ps : List (List Char)} (hps : ∀ p ∈ ps, readQuantity? p ≠ none) :
      ∃ qs, ps.mapM (fun p => Datum.toNumber (.text (String.ofList p))) = .ok qs ∧
        qs.map Datum.ofQuantity = ps.map handed := by
    induction ps with
    | nil => exact ⟨[], rfl, rfl⟩
    | cons p ps ih =>
      obtain ⟨hp, hps⟩ := List.forall_mem_cons.1 hps
      obtain ⟨qs, hqs, hsame⟩ := ih hps
      obtain ⟨q, hq⟩ := Option.ne_none_iff_exists'.1 hp
      refine ⟨q :: qs, ?_, ?_⟩
      · rw [List.mapM_cons, hqs, toNumber_part, hq]
        rfl
      · rw [List.map_cons, List.map_cons, hsame, handed, hq]
  obtain ⟨qs, hqs, hsame⟩ := hnumbers hall
  have hcomponents : (Datum.text s).components = .ok qs := hqs
  have harguments : kind.arguments qs = (splitComponents s.toList).map handed := by
    rw [← hsame]
    cases kind <;> first | rfl | cases hkind
  rw [convertAs_short hkind, hcomponents, ok_bind, buildFrom_eq, harguments]
  exact orDegrade_build hkind (by simpa using hcount) _ _

theorem convertAs_short_of_none (hkind : kind.layout = .positional)
    (hmem : p ∈ splitComponents s.toList) (hp : readQuantity? p = none) :
    convertAs dataSurroundings false (.text s) (.scalar kind.name) = .ok (.text s) := by
  rw [convertAs_short hkind]
  cases hcomponents : (Datum.text s).components with
  | error f =>
    have hcaught : isBuildKind f.kind = true := by
      rw [isBuildKind, (Datum.text s).components_failsOnly f hcomponents, Bool.true_or]
    exact orDegrade_of_caught hcaught
  | ok qs =>
    obtain ⟨q, hq⟩ := mapM_returns_iff.1 ⟨qs, hcomponents⟩ p hmem
    rw [toNumber_part, hp] at hq
    cases hq

/-- A result agrees with itself. -/
theorem agree_built (args : List Datum) : Agree kind s (built kind s args) (built kind s args) := by
  unfold built
  split
  · exact .value
  · split
    · exact .text
    · exact .fault

/-- The text is left as it is unless the part that the coercion refused slips through. -/
theorem agree_text_iff {ps : List (List Char)} (hmem : p ∈ ps) (hp : readQuantity? p = none) :
    Agree kind s (.ok (.text s)) (built kind s (ps.map handed)) ↔ ¬ Slips ps := by
  cases hparts : (ps.map handed).mapM Datum.toFloat with
  | ok xs =>
    -- The constructor has read all parts, and so the refused one as well.
    have hall := mapM_handed_eq_ok_iff.1 ⟨xs, hparts⟩
    have hslips : Slips ps := by
      cases hall p hmem with
      | misread hmisread => exact .misread hmem hmisread hall
      | real hreal => cases hp.symm.trans hreal
      | whole hwhole => cases hp.symm.trans hwhole
    rw [built, hparts]
    exact iff_of_false nofun (not_not.2 hslips)
  | error f =>
    rw [built, hparts]
    dsimp only
    cases hkind : isBuildKind f.kind with
    | true =>
      -- The constructor refuses a part, which rules out both ways of slipping through.
      rw [if_pos rfl]
      refine iff_of_true .text fun hslips => ?_
      cases hslips with
      | misread _ _ hall =>
        obtain ⟨xs, hxs⟩ := mapM_handed_eq_ok_iff.2 hall
        cases hparts.symm.trans hxs
      | large hps hbefore hwhole hn _ _ =>
        have hlarge := mapM_handed_eq_error_iff.2 ⟨rfl, _, _, _, _, hps, hbefore, hwhole, hn⟩
        cases hparts.symm.trans hlarge.1
        cases hkind.symm.trans hlarge.2
    | false =>
      rw [if_neg Bool.false_ne_true]
      obtain ⟨-, before, q, after, n, hps, hbefore, hwhole, hn⟩ :=
        mapM_handed_eq_error_iff.1 ⟨hparts, hkind⟩
      exact iff_of_false nofun (not_not.2 (.large hps hbefore hwhole hn hmem hp))

/-- The two spellings of a vector or a rotation agree on a text with no more parts than the value
has components exactly if no part slips through that the coercion refuses. Where one does, the name
alone leaves the text as it is. -/
theorem spellings_agree_iff (traced : Bool) (hkind : kind.layout = .positional)
    (hcount : (splitValues s.toList none).length ≤ kind.size) :
    let short := ((Datum.text s).convert traced (TypeExpr.ofText false kind.name)).1
    let long := ((Datum.text s).convert traced (TypeExpr.ofText false kind.longName)).1
    (Agree kind s short long ↔ ¬ Slips (splitValues s.toList none)) ∧
      (Slips (splitValues s.toList none) → short = .ok (.text s)) := by
  intro short long
  have hshort : short = convertAs dataSurroundings false (.text s) (.scalar kind.name) := by
    dsimp only [short]
    rw [convert_eq_convertAs, kind.ofText_name]
  have hlong : long = built kind s ((splitValues s.toList none).map handed) := by
    dsimp only [long]
    rw [convert_eq_convertAs, kind.ofText_longName, convertAs_long hkind hcount]
  by_cases hnone : ∃ p ∈ splitValues s.toList none, readQuantity? p = none
  · -- A part is refused, and then a component is, however the text is taken apart.
    obtain ⟨p, hmem, hp⟩ := hnone
    obtain ⟨q, hq, hrefused⟩ := (exists_part_eq_none_iff s.toList).1 ⟨p, hmem, hp⟩
    rw [hlong, hshort, convertAs_short_of_none hkind hq hrefused]
    exact ⟨agree_text_iff hmem hp, fun _ => rfl⟩
  · have hnumbers : ∀ p ∈ splitValues s.toList none, readQuantity? p ≠ none :=
      fun p hmem hp => hnone ⟨p, hmem, hp⟩
    have hslips : ¬ Slips (splitValues s.toList none) := fun h => hnone h.exists_refused
    -- All parts are numbers, and are the components, from which both make the same value.
    have hsame := splitValues_eq_of_numbers hnumbers
    rw [hlong, hshort]
    rw [hsame] at hcount hnumbers hslips ⊢
    rw [convertAs_short_of_numbers hkind hcount hnumbers]
    exact ⟨iff_of_true (agree_built _) hslips, fun h => absurd h hslips⟩

/-- A signed `nan` is left in its text by the name alone, but becomes a component of a vector by the
long spelling. On numbers, the two agree. -/
theorem spellings_differ_at_signed_nan :
    let short (s : String) := ((Datum.text s).convert false (TypeExpr.ofText false "Vector2")).1
    let long (s : String) :=
      ((Datum.text s).convert false (TypeExpr.ofText false "Vector2<number,number>")).1
    ValueKind.vector2.layout = .positional ∧
      (∀ s ∈ ["+nan, 1", "2, 1"], (splitOn ',' s.toList).length ≤ ValueKind.vector2.size) ∧
      short "+nan, 1" = .ok (.text "+nan, 1") ∧
      ¬ Agree .vector2 "+nan, 1" (short "+nan, 1") (long "+nan, 1") ∧
      Agree .vector2 "2, 1" (short "2, 1") (long "2, 1") := by
  intro short long
  have hlayout : ValueKind.vector2.layout = .positional := rfl
  have hcommas : ∀ s ∈ ["+nan, 1", "2, 1"],
      (splitOn ',' s.toList).length ≤ ValueKind.vector2.size := by decide
  have hcount {s : String} (hs : s ∈ ["+nan, 1", "2, 1"]) :
      (splitValues s.toList none).length ≤ ValueKind.vector2.size :=
    Nat.le_trans (length_splitValues_le s.toList) (hcommas s hs)
  have hlong : ValueKind.vector2.longName = "Vector2<number,number>" := by decide
  have hslips : Slips (splitValues "+nan, 1".toList none) := by
    have hparts : splitValues "+nan, 1".toList none = ["+nan".toList, "1".toList] := by decide
    have hmisread : IsMisread "+nan".toList :=
      ⟨Option.isNone_iff_eq_none.1 (by decide +kernel), by decide +kernel⟩
    have hone : IsDouble "1".toList := .whole (n := 1) rfl (by decide +kernel)
    rw [hparts]
    refine .misread List.mem_cons_self hmisread ?_
    exact List.forall_mem_cons.2 ⟨.misread hmisread, List.forall_mem_singleton.2 hone⟩
  have hnumbers : ¬ Slips (splitValues "2, 1".toList none) := fun h => by
    obtain ⟨p, hmem, hp⟩ := h.exists_refused
    have hall : ∀ p ∈ splitValues "2, 1".toList none, (readQuantity? p).isSome = true := by
      decide +kernel
    have hsome := hall p hmem
    rw [hp] at hsome
    cases hsome
  have hnan := spellings_agree_iff false hlayout (hcount List.mem_cons_self)
  have hpair :=
    spellings_agree_iff false hlayout (hcount (List.mem_cons_of_mem _ List.mem_cons_self))
  rw [hlong] at hnan hpair
  exact ⟨hlayout, hcommas, hnan.2 hslips, fun h => hnan.1.1 h hslips, hpair.1.2 hnumbers⟩

end Conversion

end SceneBridge
