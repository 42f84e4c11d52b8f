import SceneBridge.Proofs.ConstructorRuns
import SceneBridge.Proofs.RegistryEntries
import SceneBridge.Proofs.RegistryKeys

/-!
# Registries among spellings of names

A registry is asked to add objects, to decorate them, to take them out, and to forget all of them,
in any order, while other code runs in between. Whatever was asked, it is a map from keys: a name is
found if and only if its key is, each key is its own key, an object under a key gives way to no
other one, and a request that fails leaves the entries as they are. All spellings of a name are one
name to the registry, but a spelling that is not found is quoted as it was given.
-/

namespace SceneBridge

open Act

/-! ## Entries -/

/-- Putting in what is there changes nothing. -/
theorem Entries.put_of_lookup {K V : Type} [BEq K] [LawfulBEq K] {entries : List (K × V)} {key : K}
    {value : V} (h : entries.lookup key = some value) : put entries key value = entries := by
  induction entries with
  | nil => cases h
  | cons e rest ih =>
    obtain ⟨k, v⟩ := e
    rw [put]
    split
    · rename_i hk
      obtain rfl := eq_of_beq hk
      rw [List.lookup_cons, beq_self_eq_true] at h
      rw [Option.some.inj h]
    · rename_i hk
      have hother : (key == k) = false := by
        rw [beq_eq_false_iff_ne]
        rintro rfl
        exact hk (beq_self_eq_true key)
      rw [List.lookup_cons, hother] at h
      rw [ih h]

namespace Registry

/-- The entries are objects under different keys, each of which is its own key. -/
structure IsSound (r : Registry Value) : Prop where
  nodup : r.keys.Nodup
  settled : ∀ k ∈ r.keys, Registry.key k = .ok k
  present : ∀ v ∈ r.values, v.isNull = false

variable {r r' : Registry Value} {clashes : Value → Bool} {name : Datum} {key : String}
  {obj old : Value}

theorem IsSound.empty : (Registry.empty : Registry Value).IsSound :=
  ⟨List.nodup_nil, nofun, nofun⟩

theorem key_of_keyOfDatum (h : keyOfDatum name = .ok key) : Registry.key key = .ok key := by
  cases name with
  | text s => exact key_of_key h
  | _ => cases h

/-- An object under a key gives way to none that clashes with it. -/
theorem add_of_lookup (clashes : Value → Bool) (obj : Value) (hkey : keyOfDatum name = .ok key)
    (hold : r.entries.lookup key = some old) :
    r.add clashes name obj =
      if clashes old then .error (.keyTaken key) else .ok ⟨Entries.put r.entries key obj⟩ := by
  rw [add, hkey, ok_bind, hold]
  dsimp only
  split
  · rfl
  · rfl

theorem put_of_add (h : r.add clashes name obj = .ok r') :
    ∃ key, keyOfDatum name = .ok key ∧ r' = ⟨Entries.put r.entries key obj⟩ := by
  obtain ⟨key, hkey, -⟩ := bind_eq_ok_iff.1 h
  refine ⟨key, hkey, ?_⟩
  cases hold : r.entries.lookup key with
  | none =>
    have hadded := add_of_new clashes obj hkey hold
    rw [Entries.put_of_notMem obj (Entries.lookup_eq_none_iff.1 hold)]
    exact Except.ok.inj (h.symm.trans hadded)
  | some old =>
    rw [add_of_lookup clashes obj hkey hold] at h
    split at h
    · cases h
    · exact (Except.ok.inj h).symm

theorem get_eq_ok_iff : r.get name = .ok obj ↔ r.lookup? name = some obj := by
  refine ⟨fun h => ?_, get_of_lookup?⟩
  obtain ⟨key, hkey, hfound⟩ := bind_eq_ok_iff.1 h
  refine lookup?_eq_some_iff.2 ⟨key, hkey, ?_⟩
  cases hold : r.entries.lookup key with
  | none =>
    rw [hold] at hfound
    cases hfound
  | some old =>
    rw [hold] at hfound
    exact congrArg some (Except.ok.inj hfound)

variable {s : String}

theorem keyOfDatum_text (h : Registry.key s = .ok key) : keyOfDatum (.text s) = .ok key := h

/-- A spelling that is not found is quoted as it was given. -/
theorem get_of_lookup_eq_none (hkey : Registry.key s = .ok key)
    (hnone : r.entries.lookup key = none) : r.get (.text s) = .error (.keyMissing s) := by
  rw [get, keyOfDatum_text hkey, ok_bind, hnone]
  rfl

theorem IsSound.put (hr : r.IsSound) (hkey : Registry.key key = .ok key)
    (hobj : obj.isNull = false) :
    (⟨Entries.put r.entries key obj⟩ : Registry Value).IsSound where
  nodup := Entries.nodup_keys_put key obj hr.nodup
  settled k hk := by
    obtain hk | rfl := (Entries.mem_keys_put _ _ _ _).1 hk
    · exact hr.settled k hk
    · exact hkey
  present v hv := by
    obtain ⟨e, he, rfl⟩ := List.mem_map.1 hv
    obtain he | rfl := Entries.mem_of_mem_put he
    · exact hr.present e.2 (List.mem_map_of_mem he)
    · exact hobj

theorem IsSound.remove (hr : r.IsSound) (key : String) :
    (⟨Entries.remove r.entries key⟩ : Registry Value).IsSound where
  nodup := hr.nodup.sublist (List.filter_sublist.map _)
  settled k hk := hr.settled k ((List.filter_sublist.map _).subset hk)
  present v hv := hr.present v (mem_values_of_remove hv)

theorem IsSound.of_add (hr : r.IsSound) (hobj : obj.isNull = false)
    (h : r.add clashes name obj = .ok r') : r'.IsSound := by
  obtain ⟨key, hkey, rfl⟩ := put_of_add h
  exact hr.put (key_of_keyOfDatum hkey) hobj

theorem IsSound.of_remove (hr : r.IsSound) (h : r.remove name = .ok r') : r'.IsSound := by
  obtain ⟨key, -, rfl⟩ := remove_eq_ok h
  exact hr.remove key

/-- What is found is something. -/
theorem IsSound.isNull_lookup? (hr : r.IsSound) (name : Datum) :
    ((r.lookup? name).getD .null).isNull = !(r.lookup? name).isSome := by
  cases hfound : r.lookup? name with
  | none => rfl
  | some v => exact hr.present v (mem_values_of_lookup? hfound)

end Registry

/-! ## Registries in the store -/

namespace World

/-- A change is what it makes of the object. -/
theorem withChange_congr {w : World} {p : Nat} {f g : Entity → Entity} (hp : p < w.store.size)
    (h : f (w.entity p) = g (w.entity p)) : w.withChange p f = w.withChange p g := by
  have hentity : w.entity p = w.store[p] := by simp [entity, Array.getElem?_eq_getElem hp]
  have hstore : w.store.modify p f = w.store.modify p g := by
    refine Array.ext (by simp) fun i hi _ => ?_
    rw [Array.getElem_modify, Array.getElem_modify]
    split
    · rename_i hpi
      subst hpi
      rwa [hentity] at h
    · rfl
  rw [withChange, withChange, hstore]

theorem withChange_id (w : World) (p : Nat) : w.withChange p id = w := by
  have hstore : w.store.modify p id = w.store := by
    refine Array.ext (by simp) fun i hi _ => ?_
    rw [Array.getElem_modify]
    exact ite_self _
  rw [withChange, hstore]

/-- The object at a place is a registry with these entries. -/
structure HasRegistry (w : World) (p : Nat) (r : Registry Value) : Prop where
  library : w.HasLibrary
  place : p < w.store.size
  entity : w.entity p = .ofClass (.library .registry) (.registry r)

/-- Other code leaves the registry at a place as it is. -/
structure LeavesRegistry (w w' : World) (p : Nat) : Prop where
  library : w'.HasLibrary
  size : w.store.size ≤ w'.store.size
  entity : w'.entity p = w.entity p

/-- The state with another registry at the place. -/
def withRegistry (w : World) (p : Nat) (r : Registry Value) : World :=
  w.withChange p ({ · with body := .registry r })

variable {w w' : World} {n p : Nat} {r : Registry Value}

namespace HasRegistry

theorem left (hw : w.HasRegistry p r) (h : w.LeavesRegistry w' p) : w'.HasRegistry p r where
  library := h.library
  place := Nat.lt_of_lt_of_le hw.place h.size
  entity := h.entity.trans hw.entity

theorem withRegistry (hw : w.HasRegistry p r) (r' : Registry Value) :
    (w.withRegistry p r').HasRegistry p r' where
  library l := hw.library l
  place := by rw [World.withRegistry, size_withChange]; exact hw.place
  entity := by rw [World.withRegistry, entity_withChange_self hw.place, hw.entity]; rfl

theorem runs_registryOf (hw : w.HasRegistry p r) : Runs (registryOf p).get w r w := by
  refine (runs_entity p w).bind ?_
  rw [hw.entity]
  exact runs_pure r w

theorem withRegistry_self (hw : w.HasRegistry p r) : w.withRegistry p r = w := by
  refine (withChange_congr hw.place ?_).trans (withChange_id w p)
  rw [hw.entity]
  rfl

theorem runs_set (hw : w.HasRegistry p r) (r' : Registry Value) :
    Runs ((registryOf p).set r') w () (w.withRegistry p r') := by
  refine (runs_change p _ w).trans (congrArg (Prod.mk _) (withChange_congr hw.place ?_))
  rw [hw.entity]
  rfl

/-- Calling a method of the registry runs its operation. -/
theorem run_send {name : String} {owner : ClassId} {op : RegistryOperation}
    {params : List Param} {returns : Option Annotation} {doc : Option String} {args : List Value}
    (hw : w.HasRegistry p r) (bound : Arguments)
    (hmember : LibraryClass.registry.member? name =
      some (owner, .routine ⟨params, returns, .operation (.registry op), doc⟩))
    (hbound : ∀ callee, Arguments.bind callee params args [] = .ok bound) :
    ((Calls.ofDepth (n + 1)).send (.object p) name args).run.run w =
      (op.run ⟨.ofDepth n, .object p, bound, fun _ => pure ()⟩).run.run w :=
  Act.run_callMember bound hw.library (by rw [hw.entity]; rfl) (by rw [hw.entity]; rfl) hmember
    hbound

theorem run_get (hw : w.HasRegistry p r) (name : Value) :
    ((Calls.ofDepth (n + 1)).send (.object p) "get" [name]).run.run w =
      (r.get (w.see depthLimit name), w) := by
  refine (hw.run_send ⟨[("name", name)], [], none, [], none⟩ rfl fun _ => rfl).trans ?_
  refine (runs_bind hw.runs_registryOf).trans ((runs_bind (runs_see name w)).trans ?_)
  cases r.get (w.see depthLimit name) <;> rfl

theorem runs_lookup (hw : w.HasRegistry p r) (name : Value) :
    Runs ((Calls.ofDepth (n + 1)).send (.object p) "lookup" [name]) w
      ((r.lookup? (w.see depthLimit name)).getD .null) w := by
  refine (hw.run_send ⟨[("name", name)], [], none, [], none⟩ rfl fun _ => rfl).trans ?_
  exact hw.runs_registryOf.bind ((runs_see name w).bind (runs_pure _ w))

theorem runs_isRegistered (hw : w.HasRegistry p r) (name : Value) :
    Runs ((Calls.ofDepth (n + 2)).send (.object p) "is_registered" [name]) w
      (.bool (!((r.lookup? (w.see depthLimit name)).getD .null).isNull)) w := by
  refine (hw.run_send ⟨[("name", name)], [], none, [], none⟩ rfl fun _ => rfl).trans ?_
  exact hw.runs_registryOf.bind ((hw.runs_lookup name).bind (runs_pure _ w))

theorem runs_listAll (hw : w.HasRegistry p r) :
    Runs ((Calls.ofDepth (n + 1)).send (.object p) "list_all" []) w (.object w.store.size)
      (w.withObject (.ofClass (.library .list) (.list (r.keys.map .text)))) := by
  refine (hw.run_send ⟨[], [], none, [], none⟩ rfl fun _ => rfl).trans ?_
  exact hw.runs_registryOf.bind (runs_newList _ w)

theorem run_contains (hw : w.HasRegistry p r) (s : String) :
    Runs (contains (.object p) (.text s)) w ((r.lookup? (.text s)).any (!·.isNull)) w := by
  refine (runs_entity p w).bind ?_
  rw [hw.entity]
  exact runs_pure _ w

theorem run_add (hw : w.HasRegistry p r) (name obj : Value) :
    ((Calls.ofDepth (n + 1)).send (.object p) "add" [name, obj]).run.run w =
      match r.add (RegistryOperation.clashes w obj) (w.see depthLimit name) obj with
      | .ok r' => (.ok obj, w.withRegistry p r')
      | .error fault => (.error fault, w) := by
  refine (hw.run_send ⟨[("name", name), ("obj", obj)], [], none, [], none⟩ rfl
    fun _ => rfl).trans ?_
  refine (runs_bind hw.runs_registryOf).trans ((runs_bind (runs_get w)).trans ?_)
  refine (runs_bind (runs_see name w)).trans ?_
  have hobj : (Invocation.mk (.ofDepth n) (.object p) ⟨[("name", name), ("obj", obj)], [], none, [],
      none⟩ fun _ => pure ()).arg "obj" = obj := rfl
  rw [hobj]
  cases hadded : r.add (RegistryOperation.clashes w obj) (w.see depthLimit name) obj with
  | error fault => rfl
  | ok r' =>
    refine (runs_bind (runs_ofExcept r' w)).trans ?_
    exact runs_bind (hw.runs_set r')

theorem run_unregister (hw : w.HasRegistry p r) (name : Value) :
    ((Calls.ofDepth (n + 1)).send (.object p) "unregister" [name]).run.run w =
      match r.remove (w.see depthLimit name) with
      | .ok r' => (.ok .null, w.withRegistry p r')
      | .error fault => (.error fault, w) := by
  refine (hw.run_send ⟨[("name", name)], [], none, [], none⟩ rfl fun _ => rfl).trans ?_
  refine (runs_bind hw.runs_registryOf).trans ((runs_bind (runs_see name w)).trans ?_)
  cases r.remove (w.see depthLimit name) with
  | error fault => rfl
  | ok r' =>
    refine (runs_bind (runs_ofExcept r' w)).trans ?_
    exact runs_bind (hw.runs_set r')

theorem runs_clear (hw : w.HasRegistry p r) :
    Runs ((Calls.ofDepth (n + 1)).send (.object p) "clear" []) w .null
      (w.withRegistry p .empty) := by
  refine (hw.run_send ⟨[], [], none, [], none⟩ rfl fun _ => rfl).trans ?_
  exact hw.runs_registryOf.bind ((hw.runs_set .empty).bind (runs_pure _ _))

end HasRegistry

end World

/-! ## Requests -/

/-- What changes a registry. -/
inductive RegistryRequest where
  | add (name obj : Value)
  /-- An object is decorated. -/
  | register (name obj : Value)
  | unregister (name : Value)
  | clear

namespace RegistryRequest

/-- Asks the registry at a place. -/
def run (calls : Calls) (p : Nat) : RegistryRequest → Act Value
  | add name obj => calls.send (.object p) "add" [name, obj]
  | register name obj => do
    let decorator ← calls.send (.object p) "register" [name]
    calls.call decorator [obj] []
  | unregister name => calls.send (.object p) "unregister" [name]
  | clear => calls.send (.object p) "clear" []

/-- An object that comes in is not nothing. -/
def IsProper : RegistryRequest → Prop
  | add _ obj | register _ obj => obj.isNull = false
  | unregister _ | clear => True

/-- The state in which the name of the request is known: an object that is registered under the name
that it has itself is asked for it, which may run any code. -/
def named (calls : Calls) (w : World) : RegistryRequest → World
  | register name obj =>
    match (truth name).run.run w with
    | (.ok false, _) => ((calls.member obj "__name__").run.run w).2
    | _ => w
  | _ => w

variable {w : World} {n p : Nat} {r r' r₀ : Registry Value} {obj : Value}

/-- What is asked keeps what is sound, and where it fails it leaves the entries as they are. -/
def Keeps (r : Registry Value) (p : Nat) (outcome : Except Fault Value) (w : World) : Prop :=
  ∃ r', w.HasRegistry p r' ∧ r'.IsSound ∧ ∀ fault, outcome = .error fault → r' = r

theorem keeps_self (hw : w.HasRegistry p r) (hr : r.IsSound) (outcome : Except Fault Value) :
    Keeps r p outcome w :=
  ⟨r, hw, hr, fun _ _ => rfl⟩

theorem add_keeps (hw : w.HasRegistry p r) (hr : r.IsSound) (name : Value)
    (hobj : obj.isNull = false) :
    Ends ((add name obj).run (.ofDepth (n + 1)) p) w (Keeps r p) := by
  unfold Ends
  rw [run, hw.run_add]
  cases hadded : r.add (RegistryOperation.clashes w obj) (w.see World.depthLimit name) obj with
  | error fault => exact keeps_self hw hr _
  | ok r' => exact ⟨r', hw.withRegistry r', hr.of_add hobj hadded, fun _ h => nomatch h⟩

theorem register_keeps (hw : w.HasRegistry p r₀) (name : Value)
    (hnamed : ((register name obj).named (.ofDepth (n + 1)) w).HasRegistry p r) (hr : r.IsSound)
    (hobj : obj.isNull = false) :
    Ends ((register name obj).run (.ofDepth (n + 2)) p) w (Keeps r p) := by
  have hdecorator : Runs ((Calls.ofDepth (n + 2)).send (.object p) "register" [name]) w
      (.callable (.registering p name)) w := by
    refine (hw.run_send ⟨[("name", name)], [], none, [], none⟩ rfl fun _ => rfl).trans ?_
    exact hw.runs_registryOf.bind (runs_pure _ w)
  have hargument : Runs (singleArgument "decorator()" (.needed "obj") [obj] []) w obj w := rfl
  have hadd (name' : Value) (w' : World) (hw' : w'.HasRegistry p r) : Ends (do
      discard ((Calls.ofDepth (n + 1)).send (.object p) "add" [name', obj])
      return obj) w' (Keeps r p) := by
    rw [discard_bind]
    refine (add_keeps (n := n) hw' hr name' hobj).bind (fun _ _ h => h) fun _ w'' h => ?_
    obtain ⟨r', hr', hsound, -⟩ := h
    exact ⟨r', hr', hsound, fun _ h => nomatch h⟩
  refine hdecorator.bind_ends (hargument.bind_ends ?_)
  have htruth : Ends (truth name) w fun b w' => w' = w ∧ (truth name).run.run w = (b, w') :=
    ⟨ConstructorRequest.looks_truth name w, rfl⟩
  refine htruth.bind ?_ ?_
  · rintro fault _ ⟨rfl, hb⟩
    rw [named, hb] at hnamed
    exact keeps_self hnamed hr _
  · rintro b w ⟨rfl, hb⟩
    rw [named, hb] at hnamed
    cases b with
    | true => exact hadd name w hnamed
    | false =>
      have hname : Ends ((Calls.ofDepth (n + 1)).member obj "__name__") w fun _ w' =>
          w'.HasRegistry p r := hnamed
      exact hname.bind (fun _ _ h => keeps_self h hr _) fun name' w' h => hadd name' w' h

theorem unregister_keeps (hw : w.HasRegistry p r) (hr : r.IsSound) (name : Value) :
    Ends ((unregister name).run (.ofDepth (n + 1)) p) w (Keeps r p) := by
  unfold Ends
  rw [run, hw.run_unregister]
  cases hremoved : r.remove (w.see World.depthLimit name) with
  | error fault => exact keeps_self hw hr _
  | ok r' => exact ⟨r', hw.withRegistry r', hr.of_remove hremoved, fun _ h => nomatch h⟩

theorem clear_keeps (hw : w.HasRegistry p r) :
    Ends (clear.run (.ofDepth (n + 1)) p) w (Keeps r p) := by
  unfold Ends
  rw [run, hw.runs_clear]
  exact ⟨.empty, hw.withRegistry .empty, .empty, fun _ h => nomatch h⟩

theorem run_keeps (hw : w.HasRegistry p r₀) (req : RegistryRequest) (hreq : req.IsProper)
    (hnamed : (req.named (.ofDepth (n + 1)) w).HasRegistry p r) (hr : r.IsSound) :
    Ends (req.run (.ofDepth (n + 2)) p) w (Keeps r p) :=
  match req with
  | add name _ => add_keeps hnamed hr name hreq
  | register name _ => register_keeps hw name hnamed hr hreq
  | unregister name => unregister_keeps hnamed hr name
  | clear => clear_keeps hnamed

end RegistryRequest

/-! ## Sessions -/

/-- A registry is asked, again and again, and other code runs in between. Code that an object runs
to find its own name may itself ask the registry. -/
inductive RegistrySession (p : Nat) : World → World → Prop where
  | start (w : World) : RegistrySession p w w
  | aside {w₀ w w' : World} (h : RegistrySession p w₀ w) (hw : w.LeavesRegistry w' p) :
    RegistrySession p w₀ w'
  | ask {w₀ w w' : World} {n : Nat} {outcome : Except Fault Value} (req : RegistryRequest)
      (h : RegistrySession p w₀ w) (hreq : req.IsProper)
      (hnamed : RegistrySession p w (req.named (.ofDepth (n + 1)) w))
      (hr : (req.run (.ofDepth (n + 2)) p).run.run w = (outcome, w')) :
    RegistrySession p w₀ w'

variable {n p : Nat} {w₀ w₁ w : World}

theorem RegistrySession.hasRegistry {r₀ : Registry Value} (h : RegistrySession p w₀ w)
    (hw : w₀.HasRegistry p r₀) (hr : r₀.IsSound) : ∃ r, w.HasRegistry p r ∧ r.IsSound := by
  induction h generalizing r₀ with
  | start w => exact ⟨r₀, hw, hr⟩
  | aside h hleaves ih =>
    obtain ⟨r, hw, hr⟩ := ih hw hr
    exact ⟨r, hw.left hleaves, hr⟩
  | ask req h hreq hnamed hrun ih ihnamed =>
    obtain ⟨r, hw, hr⟩ := ih hw hr
    obtain ⟨r', hw', hr'⟩ := ihnamed hw hr
    have hkept := RegistryRequest.run_keeps hw req hreq hw' hr'
    unfold Ends at hkept
    rw [hrun] at hkept
    obtain ⟨r'', hw'', hr'', -⟩ := hkept
    exact ⟨r'', hw'', hr''⟩

theorem hasRegistry_withObject (hw : w.HasLibrary) :
    (w.withObject (.ofClass (.library .registry) (.registry .empty))).HasRegistry w.store.size
      .empty :=
  ⟨hw.extends ((World.Extends.refl w).withObject _), by simp, World.entity_withObject_self ..⟩

/-- A new registry is made. -/
theorem runs_makeRegistry (hw : w.HasLibrary) :
    Runs ((Calls.ofDepth (n + 1)).make .registry []) w (.object w.store.size)
      (w.withObject (.ofClass (.library .registry) (.registry .empty))) := by
  have hnew := hasRegistry_withObject hw
  have hset := hnew.runs_set .empty
  rw [hnew.withRegistry_self] at hset
  refine (runs_classInfo _ w).bind ?_
  rw [hw]
  refine (runs_keep (.ofClass (.library .registry) (.registry .empty)) w).bind ?_
  refine Runs.bind (a := ()) ?_ (runs_pure _ _)
  refine (runs_classInfo _ _).bind ?_
  rw [World.info_withObject, hw]
  refine (runs_ofExcept _ _).bind (runs_discard (a := Value.null) ?_)
  exact hnew.runs_registryOf.bind (hset.bind (runs_pure Value.null _))

/-! ## Names -/

/-- Two spellings are one name to the registry at a place, but a spelling that is not found is
quoted as it was given. -/
structure World.TreatsAlike (w : World) (calls : Calls) (p : Nat) (s t : String) : Prop where
  send : ∀ method ∈ ["lookup", "is_registered", "unregister"],
    (calls.send (.object p) method [.text s]).run.run w =
      (calls.send (.object p) method [.text t]).run.run w
  contains : (contains (.object p) (.text s)).run.run w = (contains (.object p) (.text t)).run.run w
  get : (∃ v, Runs (calls.send (.object p) "get" [.text s]) w v w ∧
      Runs (calls.send (.object p) "get" [.text t]) w v w) ∨
    (calls.send (.object p) "get" [.text s]).run.run w = (.error (.keyMissing s), w) ∧
      (calls.send (.object p) "get" [.text t]).run.run w = (.error (.keyMissing t), w)

/-- The registry at a place is a map over names in normal form. -/
structure World.IsNameMap (w : World) (n p : Nat) : Prop where
  /-- Each key that is listed is its own key, and is found. -/
  listed : ∃ keys : List String,
    Runs ((Calls.ofDepth (n + 2)).send (.object p) "list_all" []) w (.object w.store.size)
      (w.withObject (.ofClass (.library .list) (.list (keys.map .text)))) ∧
    keys.Nodup ∧ ∀ key ∈ keys, Registry.key key = .ok key ∧
      ∃ v, Runs ((Calls.ofDepth (n + 2)).send (.object p) "get" [.text key]) w v w
  /-- What is one name is treated as one name. -/
  alike : ∀ {s t key}, Registry.key s = .ok key → Registry.key t = .ok key →
    w.TreatsAlike (.ofDepth (n + 2)) p s t
  /-- A name is registered if and only if its object can be got. -/
  registered : ∀ name, ∃ b,
    Runs ((Calls.ofDepth (n + 2)).send (.object p) "is_registered" [name]) w (.bool b) w ∧
    (b = true ↔ ∃ v w', Runs ((Calls.ofDepth (n + 2)).send (.object p) "get" [name]) w v w')
  /-- Another object than the one under a key is refused. -/
  taken : ∀ {s key old obj}, Registry.key s = .ok key →
    Runs ((Calls.ofDepth (n + 2)).send (.object p) "get" [.text key]) w old w →
    w.isOne old obj = false →
      ((Calls.ofDepth (n + 2)).send (.object p) "add" [.text s, obj]).run.run w =
        (.error (.keyTaken key), w)
  /-- The object under a key is taken once more, which changes nothing. -/
  again : ∀ {s key old obj}, Registry.key s = .ok key →
    Runs ((Calls.ofDepth (n + 2)).send (.object p) "get" [.text key]) w old w →
    w.isOne old obj = true → ∃ w',
      Runs ((Calls.ofDepth (n + 2)).send (.object p) "add" [.text s, obj]) w obj w' ∧
        (obj = old → w' = w)
  /-- What fails leaves the registry as it is, once the name is known. -/
  unchanged : ∀ req : RegistryRequest, req.IsProper →
    RegistrySession p w (req.named (.ofDepth (n + 1)) w) →
      Ends (req.run (.ofDepth (n + 2)) p) w fun outcome w' => ∀ fault, outcome = .error fault →
        w'.entity p = (req.named (.ofDepth (n + 1)) w).entity p
  /-- Getting an object changes nothing, whether or not it fails. -/
  looks : ∀ name, Ends ((Calls.ofDepth (n + 2)).send (.object p) "get" [name]) w fun _ w' => w' = w

variable {r : Registry Value} {s t key : String}

theorem World.HasRegistry.treatsAlike (hw : w.HasRegistry p r) (hs : Registry.key s = .ok key)
    (ht : Registry.key t = .ok key) : w.TreatsAlike (.ofDepth (n + 2)) p s t := by
  have hkey : Registry.keyOfDatum (.text s) = Registry.keyOfDatum (.text t) := hs.trans ht.symm
  have hfound : r.lookup? (.text s) = r.lookup? (.text t) := Registry.lookup?_congr hkey
  constructor
  case send =>
    intro method hmethod
    simp only [List.mem_cons, List.not_mem_nil, or_false] at hmethod
    obtain rfl | rfl | rfl := hmethod
    · have hlookup (name : String) := hw.runs_lookup (n := n + 1) (.text name)
      simp only [see_text] at hlookup
      rw [hlookup s, hlookup t, hfound]
    · have hregistered (name : String) := hw.runs_isRegistered (n := n) (.text name)
      simp only [see_text] at hregistered
      rw [hregistered s, hregistered t, hfound]
    · rw [hw.run_unregister, hw.run_unregister, see_text, see_text, Registry.remove, hkey,
        Registry.remove]
  case contains =>
    rw [hw.run_contains s, hw.run_contains t, hfound]
  case get =>
    have hget (name : String) := hw.run_get (n := n + 1) (.text name)
    simp only [see_text] at hget
    cases hold : r.entries.lookup key with
    | none =>
      right
      rw [hget s, hget t, Registry.get_of_lookup_eq_none hs hold,
        Registry.get_of_lookup_eq_none ht hold]
      exact ⟨rfl, rfl⟩
    | some v =>
      have hv : r.lookup? (.text s) = some v := by
        rwa [Registry.lookup?_of_keyOfDatum (Registry.keyOfDatum_text hs)]
      refine .inl ⟨v, (hget s).trans ?_, (hget t).trans ?_⟩
      · rw [Registry.get_of_lookup? hv]
      · rw [Registry.get_of_lookup? (hfound ▸ hv)]

theorem World.HasRegistry.runs_get_iff {name v : Value} {w' : World} (hw : w.HasRegistry p r) :
    Runs ((Calls.ofDepth (n + 1)).send (.object p) "get" [name]) w v w' ↔
      r.lookup? (w.see World.depthLimit name) = some v ∧ w' = w := by
  unfold Runs
  rw [hw.run_get, Prod.mk.injEq, Registry.get_eq_ok_iff]
  exact and_congr_right fun _ => eq_comm

/-- What is got under a key is the entry of all its spellings. -/
theorem World.HasRegistry.lookup_of_get {old : Value} (hw : w.HasRegistry p r)
    (hs : Registry.key s = .ok key)
    (hget : Runs ((Calls.ofDepth (n + 1)).send (.object p) "get" [.text key]) w old w) :
    r.entries.lookup key = some old := by
  have hfound := (hw.runs_get_iff.1 hget).1
  rw [see_text] at hfound
  rwa [Registry.lookup?_of_keyOfDatum (Registry.keyOfDatum_text (Registry.key_of_key hs))] at hfound

theorem World.HasRegistry.isNameMap (hw : w.HasRegistry p r) (hr : r.IsSound) :
    w.IsNameMap n p where
  listed := by
    refine ⟨r.keys, hw.runs_listAll, hr.nodup, fun key hkey => ?_⟩
    have hsettled := hr.settled key hkey
    obtain ⟨e, he, rfl⟩ := List.mem_map.1 hkey
    refine ⟨hsettled, e.2, hw.runs_get_iff.2 ⟨?_, rfl⟩⟩
    rw [see_text, Registry.lookup?_of_keyOfDatum (Registry.keyOfDatum_text hsettled)]
    exact Entries.lookup_of_mem hr.nodup he
  alike := hw.treatsAlike
  registered name := by
    refine ⟨_, hw.runs_isRegistered name, ?_⟩
    rw [hr.isNull_lookup?, Bool.not_not, Option.isSome_iff_exists]
    refine exists_congr fun v => ⟨fun hv => ⟨w, hw.runs_get_iff.2 ⟨hv, rfl⟩⟩, ?_⟩
    rintro ⟨w', hget⟩
    exact (hw.runs_get_iff.1 hget).1
  taken := by
    intro s key old obj hs hget hdiffers
    have hold := hw.lookup_of_get hs hget
    have hclash : RegistryOperation.clashes w obj old = true := by
      rw [RegistryOperation.clashes, hdiffers, hr.present old (Registry.mem_values_of_lookup hold)]
      rfl
    rw [hw.run_add, see_text,
      Registry.add_of_lookup _ obj (Registry.keyOfDatum_text hs) hold, if_pos hclash]
  again := by
    intro s key old obj hs hget hsame
    have hold := hw.lookup_of_get hs hget
    have hclash : ¬ RegistryOperation.clashes w obj old = true := by
      rw [RegistryOperation.clashes, hsame, Bool.not_true, Bool.and_false]
      exact Bool.false_ne_true
    refine ⟨w.withRegistry p ⟨Entries.put r.entries key obj⟩, ?_, fun hobj => ?_⟩
    · refine (hw.run_add (.text s) obj).trans ?_
      rw [see_text, Registry.add_of_lookup _ obj (Registry.keyOfDatum_text hs) hold, if_neg hclash]
    · rw [hobj, Entries.put_of_lookup hold]
      exact hw.withRegistry_self
  unchanged req hreq hnamed := by
    obtain ⟨r', hw', hr'⟩ := hnamed.hasRegistry hw hr
    obtain ⟨r'', hw'', -, hsame⟩ := RegistryRequest.run_keeps hw req hreq hw' hr'
    intro fault hfault
    rw [hw''.entity, hsame fault hfault, hw'.entity]
  looks name := by
    unfold Ends
    rw [hw.run_get]

/-- After any requests, a registry is a map over names in normal form, which is settled. -/
theorem RegistrySession.maps_normal_names (hlibrary : w₀.HasLibrary)
    (hmade : Runs ((Calls.ofDepth (n + 1)).make .registry []) w₀ (.object p) w₁)
    (h : RegistrySession p w₁ w) :
    (∀ {name key}, Registry.key name = .ok key → Registry.key key = .ok key) ∧
      ∀ n, w.IsNameMap n p := by
  obtain ⟨hp, rfl⟩ := (runs_makeRegistry hlibrary).unique hmade
  cases hp
  obtain ⟨r, hw, hr⟩ := h.hasRegistry (hasRegistry_withObject hlibrary) .empty
  exact ⟨Registry.key_of_key, fun _ => hw.isNameMap hr⟩

/-! ## Lamp posts -/

/-- The class of nodes is registered under a name with a hyphen, and no other class is taken under
the name with an underscore. -/
theorem lamp_post_taken :
    (World.start []).HasLibrary ∧ ∃ (p : Nat) (w₁ w : World),
      Runs ((Calls.ofDepth 1).make .registry []) (World.start []) (.object p) w₁ ∧
      RegistrySession p w₁ w ∧
      ((Calls.ofDepth 2).send (.object p) "add"
        [.text " lamp_post", .classRef (.library .registry)]).run.run w =
          (.error (.keyTaken "lamp_post"), w) := by
  have hlibrary : (World.start []).HasLibrary := fun _ => rfl
  have hmade := runs_makeRegistry (n := 0) hlibrary
  have hw₁ := hasRegistry_withObject hlibrary
  generalize (World.start []).withObject _ = w₁ at hmade hw₁
  have hkey : Registry.keyOfDatum (.text "lamp-post") = .ok "lamp_post" := rfl
  have hadded := hw₁.run_add (n := 1) (.text "lamp-post") (.classRef (.library .node))
  rw [see_text, Registry.add_of_new _ _ hkey rfl] at hadded
  have hsession := RegistrySession.ask (n := 0)
    (.add (.text "lamp-post") (.classRef (.library .node))) (.start w₁) rfl (.start w₁) hadded
  have hw := hw₁.withRegistry ⟨[] ++ [("lamp_post", .classRef (.library .node))]⟩
  have hget : Runs ((Calls.ofDepth 2).send (.object _) "get" [.text "lamp_post"]) _
      (.classRef (.library .node)) _ :=
    hw.runs_get_iff.2 ⟨by rw [see_text]; rfl, rfl⟩
  obtain ⟨-, hmap⟩ := RegistrySession.maps_normal_names hlibrary hmade hsession
  exact ⟨hlibrary, _, _, _, hmade, hsession, (hmap 0).taken rfl hget rfl⟩

/-- A new registry answers differently for two spellings of a missing name, which it quotes. -/
theorem lamp_post_quoted_as_given :
    (World.start []).HasLibrary ∧ ∃ (p : Nat) (w : World),
      Runs ((Calls.ofDepth 1).make .registry []) (World.start []) (.object p) w ∧
      RegistrySession p w w ∧ Registry.key "lamp-post" = Registry.key "lamp_post" ∧
      ((Calls.ofDepth 2).send (.object p) "get" [.text "lamp-post"]).run.run w ≠
        ((Calls.ofDepth 2).send (.object p) "get" [.text "lamp_post"]).run.run w := by
  have hlibrary : (World.start []).HasLibrary := fun _ => rfl
  have hmade := runs_makeRegistry (n := 0) hlibrary
  have hw := hasRegistry_withObject hlibrary
  generalize (World.start []).withObject _ = w at hmade hw
  have hget {s : String} (hs : Registry.key s = .ok "lamp_post") :
      ((Calls.ofDepth 2).send (.object (World.start []).store.size) "get" [.text s]).run.run w =
        (.error (.keyMissing s), w) := by
    rw [hw.run_get, see_text, Registry.get_of_lookup_eq_none hs rfl]
  have hhyphen : Registry.key "lamp-post" = .ok "lamp_post" := rfl
  have hunderscore : Registry.key "lamp_post" = .ok "lamp_post" := rfl
  refine ⟨hlibrary, _, w, hmade, .start w, hhyphen.trans hunderscore.symm, fun hsame => ?_⟩
  rw [hget hhyphen, hget hunderscore] at hsame
  have hfault := Except.error.inj (Prod.mk.inj hsame).1
  have hname : "lamp-post" = "lamp_post" := Fault.keyMissing.inj hfault
  exact absurd hname (by decide)

end SceneBridge
