import ValueMethods.Proofs.Equivalence

/-!
# Equal objects have equal hashes

The two methods of the contract are looked up one after the other and may be inherited.  If the
`equals` that an object runs is a generated one, then the nearest class with a `hashCode` is the
same class, and both read the same fields.
-/

namespace ValueMethods

namespace ClassModel

/-- Where `equals` is generated, `hashCode` is generated for the same fields, or there is no body to
run for it. -/
theorem Coherent.hashCode_beside_equals {model : ClassModel} (coherent : model.Coherent)
    {ids : List ClassId} {method : Method}
    (nearest : model.nearestMethod .equals ids = .ok (some method)) :
    (∃ error, model.nearestMethod .hashCode ids = .error error) ∨
      ∃ sibling names, model.nearestMethod .hashCode ids = .ok (some sibling) ∧
        (∃ className, method.BuiltFor className names) ∧
        ∃ className, sibling.BuiltFor className names := by
  induction ids with
  | nil => simp [nearestMethod] at nearest
  | cons id rest ih =>
      cases found : model.class? id with
      | none =>
          simp only [nearestMethod, found] at nearest ⊢
          exact ih nearest
      | some decl =>
          have together := coherent id decl found
          rw [nearestMethod_cons found] at nearest ⊢
          cases hash : decl.offer? .hashCode with
          | some offered =>
              cases offered with
              | error error => exact .inl ⟨error, rfl⟩
              | ok sibling =>
                  obtain ⟨siblingMember, siblingKind⟩ := ClassDecl.of_offer?_ok hash
                  cases equals : decl.offer? .equals with
                  | some offered =>
                      cases offered with
                      | error error => simp [equals] at nearest
                      | ok chosen =>
                          obtain rfl : chosen = method := by simpa [equals] using nearest
                          obtain ⟨member, kind⟩ := ClassDecl.of_offer?_ok equals
                          obtain ⟨names, reads⟩ := together.sameFields
                          exact .inr ⟨sibling, names, rfl, reads chosen member (by simp [kind]),
                            reads sibling siblingMember (by simp [siblingKind])⟩
                  | none =>
                      -- The generated `hashCode` brings an `equals` with it.
                      have owned := together.ownsBoth sibling siblingMember (by simp [siblingKind])
                        .equals (by simp)
                      simp [ClassDecl.of_offer?_none equals] at owned
          | none =>
              cases equals : decl.offer? .equals with
              | some offered =>
                  cases offered with
                  | error error => simp [equals] at nearest
                  | ok chosen =>
                      -- The generated `equals` brings a `hashCode` with it.
                      obtain ⟨member, kind⟩ := ClassDecl.of_offer?_ok equals
                      have owned := together.ownsBoth chosen member (by simp [kind])
                        .hashCode (by simp)
                      simp [ClassDecl.of_offer?_none hash] at owned
              | none => exact ih (by simpa [equals] using nearest)

end ClassModel

/-! ## Hashes of fields -/

/-- The hash of fields is the hash of their hashes. -/
private theorem exists_of_hashAll {model : ClassModel} {self : Instance} {names : List String}
    {hash : Int32} (hashed : (self.readAll model names).bind model.dispatch.hashAll = .ok hash) :
    ∃ hashes, (self.readAll model names).bind model.dispatch.hashValues = .ok hashes ∧
      Hash.fold 1 hashes = hash := by
  obtain ⟨values, read, hashed⟩ := exists_of_bind_eq_ok hashed
  obtain ⟨hashes, each, folded⟩ := exists_of_bind_eq_ok hashed
  exact ⟨hashes, by rw [read]; exact each, Except.ok.inj folded⟩

private theorem exists_of_hashValues_cons {model : ClassModel} {self : Instance} {name : String}
    {rest : List String} {hashes : List Int32}
    (hashed : (self.readAll model (name :: rest)).bind model.dispatch.hashValues = .ok hashes) :
    ∃ value hash others, self.read model name = .ok value ∧ Value.hash model value = .ok hash ∧
      (self.readAll model rest).bind model.dispatch.hashValues = .ok others ∧
      hashes = hash :: others := by
  obtain ⟨values, readAll, hashed⟩ := exists_of_bind_eq_ok hashed
  obtain ⟨value, read, readAll⟩ := exists_of_bind_eq_ok readAll
  obtain ⟨more, readRest, listed⟩ := exists_of_bind_eq_ok readAll
  obtain rfl := Except.ok.inj listed
  obtain ⟨hash, valueHashed, remaining⟩ := exists_of_bind_eq_ok hashed
  obtain ⟨others, hashedRest, listed⟩ := exists_of_bind_eq_ok remaining
  obtain rfl := Except.ok.inj listed
  exact ⟨value, hash, others, read, valueHashed, by rw [readRest]; exact hashedRest, rfl⟩

/-- Objects that agree on fields hash these fields alike, if equal values of a field do. -/
theorem hashValues_eq_of_fieldsEqual {model : ClassModel} {first second : Instance}
    {names : List String}
    (contract : ∀ name left right, first.read model name = .ok left →
      second.read model name = .ok right → Value.equals model left right = .ok true →
      ∀ leftHash rightHash, Value.hash model left = .ok leftHash →
        Value.hash model right = .ok rightHash → leftHash = rightHash)
    (equal : model.dispatch.fieldsEqual model first second names = .ok true)
    {leftHashes rightHashes : List Int32}
    (left : (first.readAll model names).bind model.dispatch.hashValues = .ok leftHashes)
    (right : (second.readAll model names).bind model.dispatch.hashValues = .ok rightHashes) :
    leftHashes = rightHashes := by
  induction names generalizing leftHashes rightHashes with
  | nil => exact Except.ok.inj (left.symm.trans right)
  | cons name rest ih =>
      rw [Dispatch.fieldsEqual] at equal
      obtain ⟨field, equal⟩ := (bothHold_eq_ok equal).resolve_left (by simp)
      obtain ⟨leftValue, rightValue, leftRead, rightRead, compared⟩ :=
        Dispatch.fieldEqual_eq_ok field
      obtain ⟨value, hash, others, read, hashed, leftRest, rfl⟩ := exists_of_hashValues_cons left
      obtain ⟨value', hash', others', read', hashed', rightRest, rfl⟩ :=
        exists_of_hashValues_cons right
      obtain rfl : leftValue = value := Except.ok.inj (leftRead ▸ read)
      obtain rfl : rightValue = value' := Except.ok.inj (rightRead ▸ read')
      rw [contract name leftValue rightValue leftRead rightRead compared hash hash' hashed hashed',
        ih equal leftRest rightRest]

/-! ## Hashes of objects and values -/

section Graph

variable {model : ClassModel} (coherent : model.Coherent) {objects : Instance → Prop}
  (graph : ObjectGraph objects)
include coherent graph

private theorem value_hash_eq {first second : Value} (left : first.Within objects)
    (right : second.Within objects)
    (contract : ∀ inner other, first = .object inner → objects other →
      inner.equals model (.object other) = .ok true → ∀ leftHash rightHash,
      inner.hashCode model = .ok leftHash → other.hashCode model = .ok rightHash →
      leftHash = rightHash)
    (equal : Value.equals model first second = .ok true) {leftHash rightHash : Int32}
    (leftHashed : Value.hash model first = .ok leftHash)
    (rightHashed : Value.hash model second = .ok rightHash) : leftHash = rightHash := by
  rcases Value.object_or_plain first with ⟨inner, rfl⟩ | plain
  · obtain ⟨other, rfl⟩ := Value.exists_object_of_equals coherent.synthesized
      (graph.sound (left inner rfl)) equal
    rcases Value.equals_object_object equal with ⟨same, _⟩ | ⟨_, called⟩
    · obtain rfl := graph.eq_of_same (left inner rfl) (right other rfl) same
      exact Except.ok.inj (leftHashed.symm.trans rightHashed)
    · exact contract inner other rfl (right other rfl) called leftHash rightHash leftHashed
        rightHashed
  · obtain ⟨_, answered, same⟩ := Value.equals_plain model plain second
    obtain rfl := Except.ok.inj (answered.symm.trans equal)
    obtain rfl := same.mp rfl
    exact Except.ok.inj (leftHashed.symm.trans rightHashed)

/-- Different objects whose class has both methods generated for the same fields. -/
private theorem siblings_hash_eq {id : ClassId} {first second : Instance} (left : objects first)
    (right : objects second)
    (nested : ∀ inner, first.Holds inner → ∀ other, objects other →
      inner.equals model (.object other) = .ok true → ∀ leftHash rightHash,
      inner.hashCode model = .ok leftHash → other.hashCode model = .ok rightHash →
      leftHash = rightHash)
    (siblings : Instance.Siblings id first second) {method sibling : Method}
    {className siblingName : String} {names : List String}
    (resolved : model.resolve id .equals = .ok (some method))
    (beside : model.resolve id .hashCode = .ok (some sibling))
    (built : method.BuiltFor className names) (builtSibling : sibling.BuiltFor siblingName names)
    (equal : first.equals model (.object second) = .ok true) {leftHash rightHash : Int32}
    (leftHashed : first.hashCode model = .ok leftHash)
    (rightHashed : second.hashCode model = .ok rightHash) : leftHash = rightHash := by
  have synthesized := coherent.synthesized
  obtain ⟨firstSound, rfl, owner, different⟩ := siblings
  have secondSound := graph.sound right
  rw [Instance.equals_of_resolve synthesized firstSound resolved built] at equal
  simp only [Dispatch.equalsByFields, different, owner, Bool.false_eq_true, ↓reduceIte] at equal
  split at equal
  · rw [Instance.hashCode_of_resolve synthesized firstSound beside builtSibling] at leftHashed
    rw [Instance.hashCode_of_resolve synthesized secondSound (owner ▸ beside) builtSibling]
      at rightHashed
    obtain ⟨leftHashes, leftEach, rfl⟩ := exists_of_hashAll leftHashed
    obtain ⟨rightHashes, rightEach, rfl⟩ := exists_of_hashAll rightHashed
    refine congrArg (Hash.fold 1) (hashValues_eq_of_fieldsEqual ?_ equal leftEach rightEach)
    intro name leftValue rightValue leftRead rightRead compared one other
    refine value_hash_eq coherent graph (graph.within_of_read left leftRead)
      (graph.within_of_read right rightRead) ?_ compared
    rintro inner outside rfl
    exact nested inner (Instance.holds_of_read leftRead) outside
  · simp at equal

theorem Instance.hashCode_eq_of_equals {first : Instance} (left : objects first) :
    ∀ second, objects second → first.equals model (.object second) = .ok true →
      ∀ leftHash rightHash, first.hashCode model = .ok leftHash →
      second.hashCode model = .ok rightHash → leftHash = rightHash := by
  have synthesized := coherent.synthesized
  have sound := graph.sound left
  induction sound with
  | @intro first height nested ih =>
      intro second right equal leftHash rightHash leftHashed rightHashed
      have firstSound := graph.sound left
      cases same : first.same second with
      | true =>
          obtain rfl := graph.eq_of_same left right same
          exact Except.ok.inj (leftHashed.symm.trans rightHashed)
      | false =>
          have owners : first.owner = second.owner := by
            by_contra owners
            have unequal := equals_of_owner_ne synthesized firstSound same owners equal
            simp at unequal
          cases resolved : model.resolve first.owner .equals with
          | error error => simp [equals_of_resolve_error synthesized firstSound resolved] at equal
          | ok found =>
              cases found with
              | none =>
                  simp [equals_of_resolve_none synthesized firstSound resolved,
                    Value.sameReference, same] at equal
              | some method =>
                  rcases coherent.hashCode_beside_equals resolved with
                    ⟨error, failing⟩ | ⟨sibling, names, beside, ⟨_, built⟩, _, builtSibling⟩
                  · rw [hashCode_of_resolve_error synthesized firstSound failing] at leftHashed
                    simp at leftHashed
                  · refine siblings_hash_eq coherent graph left right ?_
                      ⟨firstSound, rfl, owners.symm, same⟩ resolved beside built builtSibling
                      equal leftHashed rightHashed
                    exact fun inner held => ih inner held (graph.closed first left inner held)

end Graph

/-- Whatever has been done to a model, equal objects and equal values have the same hash, where
the comparison and both hashes succeed. -/
theorem hashes_agree_after_run (operations : List Operation) {objects : Instance → Prop}
    (graph : ObjectGraph objects) :
    let model := (Workshop.empty.run operations).model
    (∀ first second, objects first → objects second → ∀ leftHash rightHash,
      first.equals model (.object second) = .ok true → first.hashCode model = .ok leftHash →
      second.hashCode model = .ok rightHash → leftHash = rightHash) ∧
    (∀ first second : Value, first.Within objects → second.Within objects →
      ∀ leftHash rightHash, Value.equals model first second = .ok true →
      Value.hash model first = .ok leftHash → Value.hash model second = .ok rightHash →
      leftHash = rightHash) := by
  intro model
  have coherent : model.Coherent := (Workshop.coherent_run_empty operations).model
  constructor
  · intro first second left right leftHash rightHash equal
    exact Instance.hashCode_eq_of_equals coherent graph left second right equal leftHash rightHash
  · intro first second left right leftHash rightHash equal leftHashed rightHashed
    refine value_hash_eq coherent graph left right ?_ equal leftHashed rightHashed
    rintro inner other rfl member
    exact Instance.hashCode_eq_of_equals coherent graph (left inner rfl) other member

/-- The boxes are different objects that are equal and that do have hashes, so these agree. -/
theorem hashes_agree_on_boxes :
    let model := (Workshop.empty.run boxedPoints).model
    let first := box 3 (point 1 3)
    let second := box 4 (point 2 3)
    first.equals model (.object second) = .ok true ∧ first.hashCode model = .ok 65 ∧
      ∀ hash, second.hashCode model = .ok hash → 65 = hash := by
  intro model first second
  have equal : first.equals model (.object second) = .ok true := by decide +kernel
  have hashed : first.hashCode model = .ok 65 := by decide +kernel
  refine ⟨equal, hashed, fun hash => ?_⟩
  exact (hashes_agree_after_run boxedPoints objectGraph_pointsAndBoxes).1 first second
    (by simp [first, pointsAndBoxes]) (by simp [second, pointsAndBoxes]) 65 hash equal hashed

end ValueMethods
