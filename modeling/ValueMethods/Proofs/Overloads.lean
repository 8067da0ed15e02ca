import Mathlib.Data.List.Perm.Basic
import ValueMethods.Proofs.Acceptance
import ValueMethods.Proofs.MethodTables
import ValueMethods.Proofs.Processed
import ValueMethods.Source.Unit

/-!
# Overloads in documents

A document lists the methods of a class, and overloads of one name differ in the simple name or in
the array or variadic suffix of some parameter type.  A class keeps one method for each signature,
so all methods reach its unit exactly if their signatures differ.  Overloads of plain types have
different signatures; a variadic suffix, or a suffix after type arguments, is lost in the signature.
-/

namespace ValueMethods

/-! ### What tells overloads apart -/

/-- The text without type arguments, which may be nested.  The first argument is how many of them
are open. -/
def withoutArguments : Nat → List Char → List Char
  | _, [] => []
  | depth, c :: rest =>
      if c = '<' then withoutArguments (depth + 1) rest
      else if c = '>' then withoutArguments (depth - 1) rest
      else if depth = 0 then c :: withoutArguments depth rest
      else withoutArguments depth rest

/-- Whether a character may stand in the suffix of a type. -/
def isSuffixChar (c : Char) : Bool :=
  c = '[' || c = ']' || c = '.' || Text.isBlank c

/-- The array or variadic suffix of a type text without type arguments, with its blanks. -/
def suffixOf (text : List Char) : List Char :=
  (text.reverse.takeWhile isSuffixChar).reverse

/-- The text without its suffix. -/
def withoutSuffix (text : List Char) : List Char :=
  (text.reverse.dropWhile isSuffixChar).reverse

/-- A name and the suffix behind it, without blanks. -/
def nameAndSuffix (text : List Char) : List Char × List Char :=
  (withoutSuffix text, (suffixOf text).filter fun c => !Text.isBlank c)

/-- What a parameter type contributes to telling overloads apart: its simple name and its suffix. -/
def typeKey (type : String) : List Char × List Char :=
  let text := withoutArguments 0 (Text.trim type.toList)
  (Text.afterLast '.' (withoutSuffix text), (nameAndSuffix text).2)

/-- The type is not variadic, and nothing comes after its type arguments. -/
structure IsPlainType (type : String) : Prop where
  arguments : withoutArguments 0 (Text.trim type.toList) =
    Text.beforeFirst '<' (Text.trim type.toList)
  fixed : '.' ∉ suffixOf (withoutArguments 0 (Text.trim type.toList))

instance (type : String) : Decidable (IsPlainType type) :=
  decidable_of_iff
    (withoutArguments 0 (Text.trim type.toList) = Text.beforeFirst '<' (Text.trim type.toList) ∧
      '.' ∉ suffixOf (withoutArguments 0 (Text.trim type.toList)))
    ⟨fun ⟨arguments, fixed⟩ => ⟨arguments, fixed⟩, fun ⟨arguments, fixed⟩ => ⟨arguments, fixed⟩⟩

theorem isSuffixChar_dot : isSuffixChar '.' = true := by decide

/-- A suffix without dots is the same before and after everything up to the last dot is dropped. -/
theorem takeWhile_suffix {reversed : List Char} (fixed : '.' ∉ reversed.takeWhile isSuffixChar) :
    (reversed.takeWhile (· ≠ '.')).takeWhile isSuffixChar = reversed.takeWhile isSuffixChar ∧
      (reversed.takeWhile (· ≠ '.')).dropWhile isSuffixChar =
        (reversed.dropWhile isSuffixChar).takeWhile (· ≠ '.') := by
  induction reversed with
  | nil => exact ⟨rfl, rfl⟩
  | cons c rest ih =>
      by_cases inSuffix : isSuffixChar c = true
      · rw [List.takeWhile_cons_of_pos inSuffix, List.mem_cons, not_or] at fixed
        have further := ih fixed.2
        have other : decide (c ≠ '.') = true := decide_eq_true (Ne.symm fixed.1)
        simp only [List.takeWhile_cons, List.dropWhile_cons, other, inSuffix, if_true, further,
          and_self]
      · have other : decide (c ≠ '.') = true :=
          decide_eq_true fun dot => inSuffix (dot ▸ isSuffixChar_dot)
        have outside : isSuffixChar c = false := by simpa using inSuffix
        simp only [List.takeWhile_cons, List.dropWhile_cons, other, outside, if_true,
          Bool.false_eq_true, if_false, and_self]

/-- Of a plain type, nothing that tells overloads apart is lost in the simple name. -/
theorem IsPlainType.typeKey_eq {type : String} (plain : IsPlainType type) :
    typeKey type = nameAndSuffix (simpleTypeName type).toList := by
  obtain ⟨arguments, fixed⟩ := plain
  rw [typeKey, simpleTypeName, String.toList_ofList, ← arguments]
  generalize withoutArguments 0 (Text.trim type.toList) = text at fixed
  rw [suffixOf, List.mem_reverse] at fixed
  obtain ⟨suffix, front⟩ := takeWhile_suffix fixed
  simp only [nameAndSuffix, withoutSuffix, suffixOf, Text.afterLast, List.reverse_reverse, suffix,
    front]

namespace MethodEntry

/-- The signature under which a class keeps the method. -/
def signature (method : MethodEntry) : Signature :=
  Signature.of method.name method.parameters

/-- What tells the method apart from its overloads. -/
def overload (method : MethodEntry) : String × List (List Char × List Char) :=
  (method.name, method.parameters.map typeKey)

theorem overload_eq_of_signature_eq {method other : MethodEntry}
    (plain : ∀ type ∈ method.parameters, IsPlainType type)
    (plainToo : ∀ type ∈ other.parameters, IsPlainType type)
    (same : method.signature = other.signature) : method.overload = other.overload := by
  have keys {method : MethodEntry} (plain : ∀ type ∈ method.parameters, IsPlainType type) :
      method.overload = (method.signature.name,
        method.signature.parameters.map fun name => nameAndSuffix name.toList) := by
    rw [overload, signature, Signature.of, List.map_map]
    have same := List.map_congr_left fun type member => (plain type member).typeKey_eq
    exact congrArg (Prod.mk _) same
  rw [keys plain, keys plainToo, same]

end MethodEntry

/-! ### The methods of a class -/

/-- The class keeps one method for each signature among the entries, with the source of the last
entry that has the signature. -/
structure ClassDecl.Keeps (decl : ClassDecl) (entries : List MethodEntry) : Prop where
  nodup : decl.declaredMethods.Nodup
  mem_iff : ∀ signature,
    signature ∈ decl.declaredMethods ↔ signature ∈ entries.map MethodEntry.signature
  source : ∀ front method back, entries = front ++ method :: back →
    method.signature ∉ back.map MethodEntry.signature →
      decl.methodSource? method.signature = method.source

theorem Outline.methods_decl (outline : Outline) (methods : List (Signature × Option String)) :
    (outline.decl methods).methods = MethodTable.declareAll [] methods := by
  have entered (decl : ClassDecl) :
      (methods.foldl (fun decl method => decl.declareMethod method.1 method.2) decl).methods =
        decl.methods.declareAll methods := by
    induction methods generalizing decl with
    | nil => rfl
    | cons method rest ih => exact ih _
  exact entered _

namespace ClassEntry

/-- The methods of the entry as they are entered into a table. -/
def declarations (entry : ClassEntry) : List (Signature × Option String) :=
  entry.methods.map fun method => (method.signature, method.source)

theorem methods_decl (entry : ClassEntry) (package : Option String) :
    (entry.decl package).methods = MethodTable.declareAll [] entry.declarations := by
  have described : entry.decl package = (entry.outline package).decl entry.declarations := by
    simp [decl, outline, Outline.decl, declarations, MethodEntry.signature, List.foldl_map]
  rw [described, Outline.methods_decl]

theorem map_fst_declarations (methods : List MethodEntry) :
    (methods.map fun method => (method.signature, method.source)).map Prod.fst =
      methods.map MethodEntry.signature := by
  rw [List.map_map]
  rfl

theorem keeps_decl {entry : ClassEntry} (sourced : ∀ method ∈ entry.methods, method.source ≠ none)
    {decl : ClassDecl} (methods : decl.methods = MethodTable.declareAll [] entry.declarations)
    (declared : decl.generated = []) : decl.Keeps entry.methods := by
  have all : decl.declaredMethods = decl.methods.signatures := by
    refine List.filter_eq_self.mpr fun signature _ => ?_
    simp [ClassDecl.hasGenerated, declared]
  have ordered : MethodTable.IsOrdered [] := List.Pairwise.nil
  constructor
  · rw [all, methods]
    exact (ordered.declareAll _).nodup
  · intro signature
    rw [all, methods, MethodTable.mem_signatures_declareAll, declarations, map_fst_declarations]
    simp [MethodTable.signatures]
  · intro front method back shape last
    obtain ⟨text, known⟩ := Option.ne_none_iff_exists'.mp
      (sourced method (by simp [shape]))
    rw [ClassDecl.methodSource?, methods, declarations, shape, List.map_append, List.map_cons,
      known]
    refine MethodTable.source?_declareAll ?_ (by rwa [map_fst_declarations])
    intro later member
    obtain ⟨other, among, rfl⟩ := List.mem_map.mp member
    exact sourced other (by simp [shape, among])

end ClassEntry

/-! ### The methods in a unit -/

namespace ClassModel

/-- The unit of a class in front of its declared methods. -/
def unitOpening (model : ClassModel) (decl : ClassDecl) : String :=
  "// Generated by valuegen. Do not edit manually.\n" ++ decl.packageText ++ decl.importText ++
    "\n" ++ model.headText decl ++ decl.fieldsText

/-- The unit of a class behind its declared methods. -/
def unitEnding (decl : ClassDecl) : String :=
  Text.concat (decl.generated.map fun method => "\n" ++ method.text 1) ++ "\x7d\n"

theorem unitOf_eq (model : ClassModel) (decl : ClassDecl) :
    model.unitOf decl = model.unitOpening decl ++
      Text.concat (decl.declaredMethods.map decl.declaredText) ++ unitEnding decl := by
  unfold unitOf unitOpening unitEnding
  exact String.append_assoc

/-- Each of the entries, in some order, has a signature of its own among the declared methods and
its source in the unit. -/
def Shows (model : ClassModel) (decl : ClassDecl) (entries : List MethodEntry) : Prop :=
  ∃ order : List MethodEntry, order.Perm entries ∧
    decl.declaredMethods = order.map MethodEntry.signature ∧
    model.unitOf decl = model.unitOpening decl ++
      Text.concat (order.map fun method => "\n" ++ Source.reindent 1 (method.source.getD "")) ++
        unitEnding decl

/-- All entries are shown exactly if their signatures differ. -/
theorem shows_iff_nodup {model : ClassModel} {decl : ClassDecl} {entries : List MethodEntry}
    (keeps : decl.Keeps entries) (sourced : ∀ method ∈ entries, method.source ≠ none) :
    model.Shows decl entries ↔ (entries.map MethodEntry.signature).Nodup := by
  constructor
  · rintro ⟨order, rearranged, listed, _⟩
    have nodup := keeps.nodup
    rw [listed] at nodup
    exact (rearranged.map MethodEntry.signature).nodup_iff.mp nodup
  · intro nodup
    have same : decl.declaredMethods.Perm (entries.map MethodEntry.signature) :=
      (List.perm_ext_iff_of_nodup keeps.nodup nodup).mpr keeps.mem_iff
    obtain ⟨order, listed, rearranged⟩ :=
      Eq.mpr (congrFun₂ (List.eq_map_comp_perm MethodEntry.signature) _ _) same
    refine ⟨order, rearranged, listed, ?_⟩
    rw [unitOf_eq, listed, List.map_map]
    congr 3
    refine List.map_congr_left fun method member => ?_
    have among := rearranged.subset member
    obtain ⟨front, back, shape⟩ := List.append_of_mem among
    have last : method.signature ∉ back.map MethodEntry.signature := by
      rw [shape, List.map_append, List.map_cons] at nodup
      exact (List.nodup_cons.mp (List.nodup_append.mp nodup).2.1).1
    obtain ⟨text, known⟩ := Option.ne_none_iff_exists'.mp (sourced method among)
    have recorded := keeps.source front method back shape last
    rw [known] at recorded
    simp only [Function.comp_apply, ClassDecl.declaredText, recorded, known, Option.getD_some]

/-! ### Runs on a loaded model -/

theorem keeps_processed {model : ClassModel} (runs : List Options) {id : ClassId} {decl : ClassDecl}
    (found : model.class? id = some decl) :
    ∃ after, (model.processed runs).class? id = some after ∧ Plan.Keeps decl after := by
  induction runs generalizing model decl with
  | nil => exact ⟨decl, found, rfl, rfl, fun _ => rfl⟩
  | cons options rest ih =>
      have once := Plan.keeps_settleAll decl (model.plan options id).decisions
      have settled := class?_generate model options id
      rw [found, Option.map_some] at settled
      obtain ⟨after, foundAfter, further⟩ := ih settled
      exact ⟨after, foundAfter, further.outline.trans once.outline,
        further.declaredMethods.trans once.declaredMethods,
        fun signature => (further.methodSource? signature).trans (once.methodSource? signature)⟩

end ClassModel

theorem ClassDecl.Keeps.of_keeps {before after : ClassDecl} {entries : List MethodEntry}
    (keeps : before.Keeps entries) (kept : Plan.Keeps before after) : after.Keeps entries where
  nodup := kept.declaredMethods ▸ keeps.nodup
  mem_iff := kept.declaredMethods ▸ keeps.mem_iff
  source front method back shape last :=
    (kept.methodSource? method.signature).trans (keeps.source front method back shape last)

namespace Document

theorem exists_class?_of_model {document : Document} {model : ClassModel}
    (loads : document.model = .ok model) {id : ClassId} {entry : ClassEntry}
    (found : document.classes[id]? = some entry) :
    ∃ decl, model.class? id = some decl ∧
      decl.methods = MethodTable.declareAll [] entry.declarations ∧ decl.generated = [] := by
  have known : ∃ decl, model.class? id = some decl ∧
      decl.methods = (entry.decl document.package).methods := by
    obtain ⟨_, _, linked⟩ := of_model_eq_ok loads
    subst linked
    exact ⟨_, (class?_linkedUpTo document _ id).trans (congrArg (Option.map _) found), rfl⟩
  obtain ⟨decl, there, methods⟩ := known
  exact ⟨decl, there, methods.trans (entry.methods_decl document.package),
    (ClassModel.Built.fromDocument loads).generated_eq_nil there⟩

/-- The declared methods of a class are the signatures of its entries, each with the source of the
last entry that has it, before and after any runs.  All entries are shown in the unit exactly if
their signatures differ; and they do if the entries are different overloads of plain types. -/
theorem overloads_shown_iff {document : Document} {model : ClassModel}
    (loads : document.model = .ok model) (runs : List Options) {id : ClassId} {entry : ClassEntry}
    (found : document.classes[id]? = some entry)
    (sourced : ∀ method ∈ entry.methods, method.source ≠ none) :
    ∃ decl, (model.processed runs).class? id = some decl ∧ decl.Keeps entry.methods ∧
      ((model.processed runs).Shows decl entry.methods ↔
        (entry.methods.map MethodEntry.signature).Nodup) ∧
      ((∀ method ∈ entry.methods, ∀ type ∈ method.parameters, IsPlainType type) →
        (entry.methods.map MethodEntry.overload).Nodup →
          (model.processed runs).Shows decl entry.methods) := by
  obtain ⟨loaded, known, methods, declared⟩ := exists_class?_of_model loads found
  obtain ⟨decl, there, kept⟩ := ClassModel.keeps_processed runs known
  have keeps := (ClassEntry.keeps_decl sourced methods declared).of_keeps kept
  have shown : (model.processed runs).Shows decl entry.methods ↔ _ :=
    ClassModel.shows_iff_nodup keeps sourced
  refine ⟨decl, there, keeps, shown, fun plain different => shown.mpr ?_⟩
  rw [List.nodup_iff_pairwise_ne, List.pairwise_map] at different ⊢
  refine different.imp_of_mem fun {method other} member memberToo apart same => apart ?_
  exact MethodEntry.overload_eq_of_signature_eq (plain method member) (plain other memberToo) same

/-- A class with two methods of one name. -/
def entryOfOverloads (parameters parametersToo : List String) : ClassEntry :=
  ⟨"C", none, none, false, [],
    [⟨"f", parameters, some "void first() \x7b\x7d"⟩,
      ⟨"f", parametersToo, some "void second() \x7b\x7d"⟩]⟩

/-- A document with that class. -/
def ofOverloads (parameters parametersToo : List String) : Document :=
  ⟨none, [entryOfOverloads parameters parametersToo]⟩

theorem overloads_shown_on_arrays :
    ∃ model decl, (ofOverloads ["java.util.List<a.B>", "int[]"] ["List", "int"]).model =
        .ok model ∧
      (model.processed [.default]).class? 0 = some decl ∧
      decl.declaredMethods = [⟨"f", ["List", "int"]⟩, ⟨"f", ["List", "int[]"]⟩] ∧
      (model.processed [.default]).Shows decl
        (entryOfOverloads ["java.util.List<a.B>", "int[]"] ["List", "int"]).methods := by
  have listed : ((ofOverloads ["java.util.List<a.B>", "int[]"] ["List", "int"]).model.toOption.bind
      fun model => ((model.processed [.default]).class? 0).map ClassDecl.declaredMethods) =
        some [⟨"f", ["List", "int"]⟩, ⟨"f", ["List", "int[]"]⟩] := by decide +kernel
  obtain ⟨model, loads⟩ : ∃ model,
      (ofOverloads ["java.util.List<a.B>", "int[]"] ["List", "int"]).model = .ok model := ⟨_, rfl⟩
  have found : (ofOverloads ["java.util.List<a.B>", "int[]"] ["List", "int"]).classes[0]? =
    some (entryOfOverloads ["java.util.List<a.B>", "int[]"] ["List", "int"]) := rfl
  obtain ⟨decl, there, _, _, shown⟩ :=
    overloads_shown_iff loads [.default] found (by decide +kernel)
  rw [loads, Except.toOption, Option.bind_some, there, Option.map_some, Option.some_inj] at listed
  exact ⟨model, decl, loads, there, listed, shown (by decide +kernel) (by decide +kernel)⟩

/-- Variadic parameters are lost in the signature, and so is an array suffix behind type arguments.
Of two overloads that differ there only the second is declared, and the unit does not show the
first. -/
theorem overloads_are_lost :
    (¬∀ (document : Document) (model : ClassModel), document.model = .ok model → ∀ id entry,
      document.classes[id]? = some entry → (∀ method ∈ entry.methods, method.source ≠ none) →
        (entry.methods.map MethodEntry.overload).Nodup →
          ∃ decl, model.class? id = some decl ∧ model.Shows decl entry.methods) ∧
    (∃ model, (ofOverloads ["String..."] ["int..."]).model = .ok model ∧
      model.unit 0 = "// Generated by valuegen. Do not edit manually.\n\npublic class C \x7b\n\n" ++
        "    void second() \x7b\x7d\n\x7d\n") ∧
    typeKey "List<String>[]" ≠ typeKey "List<String>" ∧
    simpleTypeName "List<String>[]" = simpleTypeName "List<String>" := by
  have shownUnit : ((ofOverloads ["String..."] ["int..."]).model.toOption.map fun model =>
      model.unit 0) =
        some ("// Generated by valuegen. Do not edit manually.\n\npublic class C \x7b\n\n" ++
          "    void second() \x7b\x7d\n\x7d\n") := by decide +kernel
  obtain ⟨model, loads⟩ : ∃ model, (ofOverloads ["String..."] ["int..."]).model = .ok model :=
    ⟨_, rfl⟩
  rw [loads, Except.toOption, Option.map_some, Option.some_inj] at shownUnit
  refine ⟨fun always => ?_, ⟨model, loads, shownUnit⟩, by decide +kernel, by decide +kernel⟩
  have found : (ofOverloads ["String..."] ["int..."]).classes[0]? =
    some (entryOfOverloads ["String..."] ["int..."]) := rfl
  have sourced : ∀ method ∈ (entryOfOverloads ["String..."] ["int..."]).methods,
      method.source ≠ none := by decide +kernel
  obtain ⟨decl, there, shows⟩ := always _ model loads 0 _ found sourced (by decide +kernel)
  obtain ⟨loaded, known, methods, declared⟩ := exists_class?_of_model loads found
  obtain rfl : loaded = decl := Option.some.inj (known.symm.trans there)
  have keeps := ClassEntry.keeps_decl sourced methods declared
  exact absurd ((ClassModel.shows_iff_nodup keeps sourced).mp shows) (by decide +kernel)

end Document
end ValueMethods
