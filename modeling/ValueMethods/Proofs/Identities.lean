import Mathlib.Data.Int.ModEq
import ValueMethods.Evaluation.Allocation
import ValueMethods.Proofs.Calls

/-!
# Default identities

Objects get their identity hashes from a counter that goes on by a fixed odd step, modulo `2 ^ 32`.
The step generates all words, so no identity comes again before `2 ^ 32` objects have been made, and
attempts that fail use none up.  Objects of a class without methods of its own for them show their
identities as hash and as text, so these do not repeat either.
-/

namespace ValueMethods

/-! ## Hexadecimal digits -/

namespace Text

/-- The digits are those of the number to base sixteen. -/
theorem hexDigits_eq_toDigits (value : Nat) : hexDigits value = Nat.toDigits 16 value := by
  have digit : ∀ small : Fin 16, hexDigit small = Nat.digitChar small := by decide
  induction value using Nat.strongRecOn with
  | ind value ih =>
      rw [hexDigits]
      split
      · next small => rw [digit ⟨value, small⟩, Nat.toDigits_of_lt_base small]
      · next large =>
          have lower := Nat.mod_lt value (by decide : 0 < 16)
          rw [ih (value / 16) (by omega), digit ⟨value % 16, lower⟩,
            ← Nat.toDigits_of_lt_base lower,
            Nat.toDigits_append_toDigits (by decide) (by omega) lower, Nat.div_add_mod]

theorem numberFrom?_append (base number : Nat) (front back : List Char) :
    numberFrom? base number (front ++ back) =
      (numberFrom? base number front).bind (numberFrom? base · back) := by
  induction front generalizing number with
  | nil => rfl
  | cons digit rest ih =>
      simp only [List.cons_append, numberFrom?]
      split
      · split
        · exact ih _
        · rfl
      · rfl

/-- Hexadecimal digits can be read back. -/
theorem number?_hexDigits (value : Nat) : number? 16 (hexDigits value) = some value := by
  have digit : ∀ small : Fin 16, digitValue? (hexDigit small) = some small.val := by decide
  induction value using Nat.strongRecOn with
  | ind value ih =>
      rw [hexDigits]
      split
      · next small => simp [number?, numberFrom?, digit ⟨value, small⟩, small]
      · next large =>
          have lower := Nat.mod_lt value (by decide : 0 < 16)
          have upper : numberFrom? 16 0 (hexDigits (value / 16)) = some (value / 16) :=
            ih (value / 16) (by omega)
          rw [number?, numberFrom?_append, upper, Option.bind_some, numberFrom?,
            digit ⟨value % 16, lower⟩]
          simp only [lower, if_true, numberFrom?, Option.some.injEq]
          omega

theorem hexText_injective : Function.Injective hexText := by
  intro one other same
  have digits : hexDigits one = hexDigits other := String.ofList_injective same
  have read := number?_hexDigits one
  rw [digits, number?_hexDigits] at read
  exact (Option.some.inj read).symm

end Text

/-! ## Words without sign -/

private theorem toNat_toUInt32 (word : Int32) :
    word.toUInt32.toNat = (word.toInt % 2 ^ 32).toNat := by
  have residue : word.toInt % (2 ^ 32 : Nat) = word.toBitVec.toNat := by
    rw [← Int32.toInt_toBitVec, BitVec.toInt_eq_toNat_bmod, Int.bmod_emod]
    exact Int.emod_eq_of_lt (by omega) (by exact_mod_cast word.toBitVec.isLt)
  have same : word.toUInt32.toNat = word.toBitVec.toNat := rfl
  omega

private theorem toUInt32_injective {word other : Int32}
    (same : word.toUInt32.toNat = other.toUInt32.toNat) : word = other :=
  Int32.toBitVec_inj.mp (BitVec.toNat_inj.mp same)

/-! ## The counter -/

namespace Allocator

/-- The identity hash of the object that is made after `count` others. -/
def identityAt (count : Nat) : Int32 :=
  firstIdentity + Int32.ofNat count * identityStep

theorem toInt_identityAt (count : Nat) :
    (identityAt count).toInt = (0x1b6d3586 + count * 0x9e37 : Int).bmod (2 ^ 32) := by
  simp [identityAt, firstIdentity, identityStep, Int32.toInt_add, Int32.toInt_mul,
    Int32.toInt_ofNat', Int32.size]

private theorem ofNat_eq_iff (first second : Nat) :
    Int32.ofNat first = Int32.ofNat second ↔ first % 2 ^ 32 = second % 2 ^ 32 := by
  rw [← Int32.toBitVec_inj, ← BitVec.toNat_inj]
  simp

/-- The counter goes on through the negative numbers. -/
example : (identityAt 41659).toInt = 2147456435 ∧ (identityAt 41660).toInt = -2147470358 := by
  decide

/-- The step has an inverse modulo `2 ^ 32`, so identities come again after that many objects and
not before. -/
theorem identityAt_eq_iff (first second : Nat) :
    identityAt first = identityAt second ↔ first % 2 ^ 32 = second % 2 ^ 32 := by
  have inverse : identityStep * 1650947975 = 1 := by decide
  rw [← ofNat_eq_iff]
  constructor
  · intro same
    have scaled : Int32.ofNat first * identityStep = Int32.ofNat second * identityStep := by
      simpa [identityAt] using same
    calc Int32.ofNat first
        = Int32.ofNat first * identityStep * 1650947975 := by
          rw [Int32.mul_assoc, inverse, Int32.mul_one]
      _ = Int32.ofNat second * identityStep * 1650947975 := by rw [scaled]
      _ = Int32.ofNat second := by rw [Int32.mul_assoc, inverse, Int32.mul_one]
  · intro same
    rw [identityAt, identityAt, same]

/-- The allocator after `count` more objects. -/
def advance (allocator : Allocator) (count : Nat) : Allocator where
  reference := allocator.reference + count
  identity := allocator.identity + Int32.ofNat count * identityStep

@[simp]
theorem advance_zero (allocator : Allocator) : allocator.advance 0 = allocator := by
  simp [advance]

theorem advance_next (allocator : Allocator) (count : Nat) :
    allocator.next.advance count = allocator.advance (count + 1) := by
  simp only [advance, next, mk.injEq, Int32.ofNat_add]
  constructor
  · omega
  · grind

end Allocator

/-! ## Attempts to make objects -/

/-- What an object is to be made from. -/
structure Blueprint where
  /-- The class of the object. -/
  owner : ClassId
  /-- The values for its fields. -/
  values : List (String × Value)

/-- What an allocator was when the object was made. -/
def Instance.origin (self : Instance) : Allocator where
  reference := self.reference
  identity := self.identity

namespace Allocator

/-- Tries to make an object.  Where that fails, the allocator stays as it is. -/
def attempt (model : ClassModel) (allocator : Allocator) (blueprint : Blueprint) :
    Except EvalError Instance × Allocator :=
  match allocator.instantiate model blueprint.owner blueprint.values with
  | .ok (self, next) => (.ok self, next)
  | .error error => (.error error, allocator)

/-- Tries to make objects one after the other. -/
def attemptAll (model : ClassModel) (allocator : Allocator) :
    List Blueprint → List (Except EvalError Instance) × Allocator
  | [] => ([], allocator)
  | blueprint :: rest =>
      let (outcome, next) := allocator.attempt model blueprint
      let (outcomes, last) := next.attemptAll model rest
      (outcome :: outcomes, last)

/-- The objects that are made by attempts, in order. -/
def objects (model : ClassModel) (allocator : Allocator) (blueprints : List Blueprint) :
    List Instance :=
  (allocator.attemptAll model blueprints).1.filterMap Except.toOption

/-- An attempt that fails uses nothing up, and one that succeeds takes the next identity. -/
theorem attempt_cases (model : ClassModel) (allocator : Allocator) (blueprint : Blueprint) :
    (∃ error, allocator.attempt model blueprint = (.error error, allocator)) ∨
      ∃ self, allocator.attempt model blueprint = (.ok self, allocator.next) ∧
        self.origin = allocator := by
  unfold attempt instantiate
  cases setFields blueprint.values (emptyFields (model.identityFields blueprint.owner).names) with
  | error name => exact .inl ⟨_, rfl⟩
  | ok fields => exact .inr ⟨_, rfl, rfl⟩

/-- The objects take the states of the allocator one by one, whatever fails between them. -/
theorem origins_objects (model : ClassModel) (allocator : Allocator)
    (blueprints : List Blueprint) :
    (allocator.objects model blueprints).map Instance.origin =
        (List.range (allocator.objects model blueprints).length).map allocator.advance ∧
      (allocator.attemptAll model blueprints).2 =
        allocator.advance (allocator.objects model blueprints).length := by
  induction blueprints generalizing allocator with
  | nil => simp [objects, attemptAll]
  | cons blueprint rest ih =>
      rcases attempt_cases model allocator blueprint with ⟨error, failed⟩ | ⟨self, made, origin⟩
      · have same : allocator.objects model (blueprint :: rest) = allocator.objects model rest := by
          simp only [objects, attemptAll, failed]
          rfl
        rw [same]
        simpa [attemptAll, failed] using ih allocator
      · have more : allocator.objects model (blueprint :: rest) =
            self :: allocator.next.objects model rest := by
          simp only [objects, attemptAll, made]
          rfl
        have shifted : allocator.next.advance = allocator.advance ∘ Nat.succ :=
          funext allocator.advance_next
        obtain ⟨origins, last⟩ := ih allocator.next
        rw [more, List.length_cons]
        constructor
        · rw [List.map_cons, List.range_succ_eq_map, List.map_cons, List.map_map, advance_zero,
            origins, origin, shifted]
        · rw [← advance_next, ← last]
          simp only [attemptAll, made]

/-- The object made after `count` others has the state of the allocator after that many. -/
theorem origin_of_objects {model : ClassModel} {allocator : Allocator}
    {blueprints : List Blueprint} {count : Nat} {self : Instance}
    (made : (allocator.objects model blueprints)[count]? = some self) :
    self.origin = allocator.advance count := by
  obtain ⟨inside, here⟩ := List.getElem?_eq_some_iff.mp made
  have listed := congrArg (·[count]?) (origins_objects model allocator blueprints).1
  simpa [inside, here] using listed

end Allocator

/-! ## Classes without a method -/

namespace ClassModel

/-- Neither the class nor an ancestor has the method, generated or declared. -/
def LacksMethod (model : ClassModel) (kind : ValueMethod) (id : ClassId) : Prop :=
  ∀ ancestor ∈ model.lineage id, ∀ decl, model.class? ancestor = some decl →
    decl.hasMethod kind.signature = false ∧ ∀ method ∈ decl.generated, method.kind ≠ kind

theorem nearestMethod_eq_none {model : ClassModel} {kind : ValueMethod} {ids : List ClassId}
    (lack : ∀ id ∈ ids, ∀ decl, model.class? id = some decl →
      decl.hasMethod kind.signature = false ∧ ∀ method ∈ decl.generated, method.kind ≠ kind) :
    model.nearestMethod kind ids = .ok none := by
  induction ids with
  | nil => rfl
  | cons first rest ih =>
      obtain ⟨here, later⟩ := List.forall_mem_cons.mp lack
      cases found : model.class? first with
      | none => simpa [nearestMethod, found] using ih later
      | some decl =>
          obtain ⟨free, others⟩ := here decl found
          have none : decl.generated.find? (fun method => method.kind == kind) = none :=
            List.find?_eq_none.mpr (by simpa using others)
          have absent : decl.offer? kind = .none := by simp [ClassDecl.offer?, none, free]
          rw [nearestMethod_cons found, absent]
          exact ih later

end ClassModel

namespace Instance

/-- Without any such method the root class answers. -/
theorem invoke_of_lacksMethod {model : ClassModel} {self : Instance} {kind : ValueMethod}
    (lacks : model.LacksMethod kind self.owner) (arguments : List Value) :
    self.invoke model kind arguments = .ok (rootMethod model self kind arguments) := by
  obtain ⟨limit, spare⟩ : ∃ limit, self.callLimit = limit + 1 := ⟨_, rfl⟩
  have resolved : model.resolve self.owner kind = .ok none :=
    ClassModel.nearestMethod_eq_none lacks
  simp only [invoke, spare, ValueMethods.invoke, resolved]

theorem hashCode_of_lacksMethod {model : ClassModel} {self : Instance}
    (lacks : model.LacksMethod .hashCode self.owner) :
    self.hashCode model = .ok self.identity := by
  rw [hashCode, invoke_of_lacksMethod lacks]
  rfl

/-- The text is the name of the class and the identity in hexadecimal, as a word without sign. -/
theorem text_of_lacksMethod {model : ClassModel} {self : Instance}
    (lacks : model.LacksMethod .toString self.owner) :
    self.text model = .ok (model.qualifiedName self.owner ++ "@" ++
      Text.hexText self.identity.toUInt32.toNat) := by
  rw [text, invoke_of_lacksMethod lacks]
  rfl

end Instance

/-- Of the objects that are made by attempts on one model, with failures anywhere between them, each
is told from all others, and its identity depends only on how many were made before; so does what
comes after the attempts.  Two identities agree exactly if these numbers agree modulo `2 ^ 32`, so
the first `2 ^ 32` differ.  Two such objects of one class, where neither it nor an ancestor has the
method, have different hashes and different texts; the text is the name of the class with the
identity in hexadecimal. -/
theorem default_identities_do_not_repeat {model : ClassModel} {reference : Nat}
    {blueprints : List Blueprint} {first second : Nat} {one other : Instance}
    (made : ((Allocator.startingAt reference).objects model blueprints)[first]? = some one)
    (madeToo : ((Allocator.startingAt reference).objects model blueprints)[second]? = some other) :
    (one.same other = true ↔ first = second) ∧
    one.identity.toInt = (0x1b6d3586 + first * 0x9e37 : Int).bmod (2 ^ 32) ∧
    ((Allocator.startingAt reference).attemptAll model blueprints).2.identity =
      Allocator.identityAt ((Allocator.startingAt reference).objects model blueprints).length ∧
    (one.identity = other.identity ↔ first % 2 ^ 32 = second % 2 ^ 32) ∧
    (first < 2 ^ 32 → second < 2 ^ 32 → first ≠ second → one.identity ≠ other.identity ∧
      (one.owner = other.owner → model.LacksMethod .hashCode one.owner →
        ∃ hash hashToo, one.hashCode model = .ok hash ∧ other.hashCode model = .ok hashToo ∧
          hash ≠ hashToo) ∧
      (one.owner = other.owner → model.LacksMethod .toString one.owner →
        ∃ text textToo, one.text model = .ok text ∧ other.text model = .ok textToo ∧
          text ≠ textToo ∧
          text = model.qualifiedName one.owner ++ "@" ++
            String.ofList (Nat.toDigits 16 (one.identity.toInt % 2 ^ 32).toNat))) := by
  have origin := Allocator.origin_of_objects made
  have originToo := Allocator.origin_of_objects madeToo
  have place : one.reference = reference + first := congrArg Allocator.reference origin
  have placeToo : other.reference = reference + second := congrArg Allocator.reference originToo
  have identity : one.identity = Allocator.identityAt first := congrArg Allocator.identity origin
  have identityToo : other.identity = Allocator.identityAt second :=
    congrArg Allocator.identity originToo
  have agree : one.identity = other.identity ↔ first % 2 ^ 32 = second % 2 ^ 32 := by
    rw [identity, identityToo, Allocator.identityAt_eq_iff]
  refine ⟨?_, ?_, ?_, agree, fun early earlyToo apart => ?_⟩
  · simp [Instance.same, place, placeToo]
  · rw [identity, Allocator.toInt_identityAt]
  · exact congrArg Allocator.identity (Allocator.origins_objects model _ blueprints).2
  · have different : one.identity ≠ other.identity := by
      rw [Ne, agree, Nat.mod_eq_of_lt early, Nat.mod_eq_of_lt earlyToo]
      exact apart
    refine ⟨different, fun sameOwner lacks => ?_, fun sameOwner lacks => ?_⟩
    · have hashed := Instance.hashCode_of_lacksMethod lacks
      have hashedToo := Instance.hashCode_of_lacksMethod (sameOwner ▸ lacks)
      exact ⟨_, _, hashed, hashedToo, different⟩
    · have shown := Instance.text_of_lacksMethod lacks
      have shownToo := Instance.text_of_lacksMethod (sameOwner ▸ lacks)
      refine ⟨_, _, shown, shownToo, fun same => different ?_, ?_⟩
      · rw [sameOwner] at same
        have digits := (String.append_right_inj _).mp same
        exact toUInt32_injective (Text.hexText_injective digits)
      · rw [Text.hexText, Text.hexDigits_eq_toDigits, toNat_toUInt32]

/-- A model of one class without methods. -/
def markerModel : ClassModel where
  classes := [⟨"Marker", some "m", false, [⟨"v", "int", false⟩], none, [], []⟩]
  index := [("m.Marker", 0)]

/-- Two attempts that succeed, and one between them for a field that the class does not have. -/
def markerAttempts : List Blueprint :=
  [⟨0, [("v", .int 5)]⟩, ⟨0, [("w", .null)]⟩, ⟨0, []⟩]

/-- The object of the first attempt. -/
def firstMarker : Instance :=
  .make 0 0 0x1b6d3586 [("v", .int 5)]

/-- The object of the last attempt. -/
def secondMarker : Instance :=
  .make 1 0 0x1b6dd3bd [("v", .null)]

theorem default_identities_do_not_repeat_on_markers :
    (Allocator.startingAt 0).objects markerModel markerAttempts = [firstMarker, secondMarker] ∧
      markerModel.LacksMethod .hashCode 0 ∧ markerModel.LacksMethod .toString 0 ∧
      (∃ hash hashToo, firstMarker.hashCode markerModel = .ok hash ∧
        secondMarker.hashCode markerModel = .ok hashToo ∧ hash ≠ hashToo) ∧
      ∃ text textToo, firstMarker.text markerModel = .ok text ∧
        secondMarker.text markerModel = .ok textToo ∧ text ≠ textToo ∧
        text = "m.Marker@1b6d3586" := by
  have lacks (kind : ValueMethod) : markerModel.LacksMethod kind 0 := by
    intro ancestor above decl found
    obtain rfl : ancestor = 0 := List.mem_singleton.mp above
    obtain rfl := Option.some.inj found
    exact ⟨rfl, by simp⟩
  have listed : (Allocator.startingAt 0).objects markerModel markerAttempts =
      [firstMarker, secondMarker] := rfl
  have made : ((Allocator.startingAt 0).objects markerModel markerAttempts)[0]? =
      some firstMarker := congrArg (·[0]?) listed
  have madeToo : ((Allocator.startingAt 0).objects markerModel markerAttempts)[1]? =
      some secondMarker := congrArg (·[1]?) listed
  obtain ⟨_, _, _, _, apart⟩ := default_identities_do_not_repeat made madeToo
  obtain ⟨_, hashes, texts⟩ := apart (by decide) (by decide) (by decide)
  obtain ⟨text, textToo, shown, shownToo, different, written⟩ := texts rfl (lacks .toString)
  exact ⟨listed, lacks .hashCode, lacks .toString, hashes rfl (lacks .hashCode), text, textToo,
    shown, shownToo, different, written.trans (by decide)⟩

end ValueMethods
