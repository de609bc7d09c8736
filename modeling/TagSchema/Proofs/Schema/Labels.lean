import TagSchema.Emit.Target
import TagSchema.Proofs.Schema.Resolving
import TagSchema.Schema.Analysis

/-!
# Group labels

Whatever is resolved or classified keeps the name of the group that it was defined in, as a label.
Nothing looks at the labels: emission order, inheritance, kinds of fields and emitted text are the
same without them. So each stage of an analysis commutes with taking them off.
-/

namespace TagSchema

/-! ### Taking labels off -/

/-- The enum without its label. -/
def ResolvedEnum.withoutGroup (e : ResolvedEnum) : ResolvedEnum := { e with group := "" }

/-- The bitfield without its label. -/
def ResolvedBitfield.withoutGroup (b : ResolvedBitfield) : ResolvedBitfield :=
  { b with group := "" }

/-- The struct without its label. -/
def ResolvedStruct.withoutGroup (s : ResolvedStruct) : ResolvedStruct := { s with group := "" }

/-- The schema without labels. -/
def SchemaSet.withoutGroups (schema : SchemaSet) : SchemaSet where
  enums := schema.enums.map (·.withoutGroup)
  bitfields := schema.bitfields.map (·.withoutGroup)
  structs := schema.structs.map (·.withoutGroup)

/-- The classified struct without its label. -/
def ClassifiedStruct.withoutGroup (s : ClassifiedStruct) : ClassifiedStruct :=
  { s with group := "" }

/-- The classified schema without labels. -/
def ClassifiedSchema.withoutGroups (schema : ClassifiedSchema) : ClassifiedSchema where
  enums := schema.enums.map (·.withoutGroup)
  bitfields := schema.bitfields.map (·.withoutGroup)
  structs := schema.structs.map (·.withoutGroup)

namespace SchemaSet

variable (schema : SchemaSet)

/-! ### Lookups -/

/-- An enum is found by its name alone. -/
theorem enum?_withoutGroups (name : String) :
    schema.withoutGroups.enum? name = (schema.enum? name).map (·.withoutGroup) :=
  List.find?_map ..

theorem bitfield?_withoutGroups (name : String) :
    schema.withoutGroups.bitfield? name = (schema.bitfield? name).map (·.withoutGroup) :=
  List.find?_map ..

theorem struct?_withoutGroups (name : String) :
    schema.withoutGroups.struct? name = (schema.struct? name).map (·.withoutGroup) :=
  List.find?_map ..

/-! ### Inheritance -/

/-- The children of a struct are known by name. -/
theorem childrenOf_withoutGroups (name : String) :
    schema.withoutGroups.childrenOf name = schema.childrenOf name := by
  simp only [childrenOf, withoutGroups, List.filter_map, List.map_map]
  rfl

/-- So are its descendants, however far the search has come. -/
theorem growDescendants_withoutGroups (fuel position : Nat) (found : List String) :
    schema.withoutGroups.growDescendants fuel position found =
      schema.growDescendants fuel position found := by
  induction fuel generalizing position found with
  | zero => rfl
  | succ fuel ih =>
    unfold growDescendants
    split
    · rfl
    · rw [childrenOf_withoutGroups, ih]

theorem descendantsOf_withoutGroups (name : String) :
    schema.withoutGroups.descendantsOf name = schema.descendantsOf name := by
  rw [descendantsOf, growDescendants_withoutGroups, descendantsOf]
  simp only [withoutGroups, List.length_map]

/-- The way up goes through the same structs. -/
theorem climb_withoutGroups (fuel : Nat) (chain : List ResolvedStruct) (s : ResolvedStruct) :
    schema.withoutGroups.climb fuel (chain.map (·.withoutGroup)) s.withoutGroup =
      (schema.climb fuel chain s).map (List.map (·.withoutGroup)) := by
  have names : ((chain.map (·.withoutGroup)).reverse.map (·.name)) =
      chain.reverse.map (·.name) := by
    rw [← List.map_reverse, List.map_map]
    rfl
  have passed : ((chain.map (·.withoutGroup)).any (·.name = s.withoutGroup.name)) =
      chain.any (·.name = s.name) := List.any_map
  -- The chain that was climbed so far has the same names, so a circle is noticed at the same
  -- struct.
  induction fuel generalizing chain s with
  | zero =>
    rw [climb, climb, names]
    rfl
  | succ fuel ih =>
    rw [climb, climb, names, passed]
    split
    · rfl
    · rw [show s.withoutGroup.inherits = s.inherits from rfl]
      cases s.inherits with
      | none => rfl
      | some parent =>
        dsimp only
        rw [struct?_withoutGroups]
        cases schema.struct? parent with
        | none => rfl
        | some next =>
          refine ih (s :: chain) next ?_ ?_
          · rw [← List.map_reverse, List.map_map]
            rfl
          · exact List.any_map

/-- So the lineage of a struct is the same one. -/
theorem lineage_withoutGroups (name : String) :
    schema.withoutGroups.lineage name =
      (schema.lineage name).map (List.map (·.withoutGroup)) := by
  rw [lineage, lineage, struct?_withoutGroups]
  cases schema.struct? name with
  | none => rfl
  | some s =>
    refine Eq.trans ?_ (schema.climb_withoutGroups _ [] s)
    simp only [withoutGroups, List.length_map]
    rfl

/-! ### Emission order -/

/-- The graph of the layouts has no groups in it. -/
theorem build_withoutGroups :
    LayoutGraph.build schema.withoutGroups = LayoutGraph.build schema := by
  simp only [LayoutGraph.build, withoutGroups, List.map_map]
  rfl

/-- Nor has the order in which structs are written. -/
theorem emissionOrder_withoutGroups :
    emissionOrder schema.withoutGroups = emissionOrder schema := by
  rw [emissionOrder, build_withoutGroups, emissionOrder]

/-- Nor has the list of what is not defined. -/
theorem unresolvedReferences_withoutGroups :
    LayoutGraph.unresolvedReferences schema.withoutGroups =
      LayoutGraph.unresolvedReferences schema := by
  simp only [LayoutGraph.unresolvedReferences, struct?_withoutGroups, Option.isSome_map]
  exact List.flatMap_map ..

end SchemaSet

/-! ### Classifying -/

namespace Classify

open SchemaSet

variable (schema : SchemaSet) (owner : String)

/-- What an index counts is looked for in the struct and its ancestors. -/
theorem indexTarget_withoutGroups (field : ResolvedField) :
    indexTarget schema.withoutGroups owner field = indexTarget schema owner field := by
  rw [indexTarget, indexTarget]
  split
  · simp only [struct?_withoutGroups, lineage_withoutGroups, descendantsOf_withoutGroups,
      Option.isNone_map, Except.map_bind, List.flatMap_map]
    rfl
  · rfl

theorem builtinKind_withoutGroups (field : ResolvedField) :
    builtinKind schema.withoutGroups owner field = builtinKind schema owner field := by
  simp only [builtinKind, struct?_withoutGroups, indexTarget_withoutGroups, Option.isNone_map,
    Option.bind_map]
  rfl

/-- The kind of a field is found by the name of its type. -/
theorem fieldKind_withoutGroups (field : ResolvedField) :
    fieldKind schema.withoutGroups owner field = fieldKind schema owner field := by
  simp only [fieldKind, builtinKind_withoutGroups, enum?_withoutGroups, bitfield?_withoutGroups]
  cases schema.enum? field.record.typeName <;> cases schema.bitfield? field.record.typeName <;> rfl

/-- So a field is laid out in the same way. -/
theorem addField_withoutGroups (inherited : Bool) :
    addField schema.withoutGroups owner inherited = addField schema owner inherited := by
  funext progress field
  rw [addField, fieldKind_withoutGroups, addField]

/-- And so are all fields of an ancestor. -/
theorem addAncestor_withoutGroups (progress : Progress) (ancestor : ResolvedStruct) :
    addAncestor schema.withoutGroups owner progress ancestor.withoutGroup =
      addAncestor schema owner progress ancestor := by
  rw [addAncestor, addField_withoutGroups]
  rfl

/-- A struct is classified alike, whatever group it is in. -/
theorem struct_withoutGroups (s : ResolvedStruct) :
    struct schema.withoutGroups s.withoutGroup = (struct schema s).map (·.withoutGroup) := by
  have run : ∀ chain : List ResolvedStruct,
      (chain.map (·.withoutGroup)).foldlM (addAncestor schema.withoutGroups s.name) {} =
        chain.foldlM (addAncestor schema s.name) {} := by
    intro chain
    rw [List.foldlM_map]
    simp only [addAncestor_withoutGroups]
  rw [struct, struct, show s.withoutGroup.name = s.name from rfl, lineage_withoutGroups,
    Except.map_bind]
  simp only [run]
  cases schema.lineage s.name with
  | error e => rfl
  | ok chain =>
    change (chain.foldlM (addAncestor schema s.name) {} >>= _) = Except.map _
      (chain.foldlM (addAncestor schema s.name) {} >>= _)
    cases chain.foldlM (addAncestor schema s.name) {} <;> rfl

end Classify

/-- Classifying does not look at labels. -/
theorem classify_withoutGroups (schema : SchemaSet) (order : List String) :
    classify schema.withoutGroups order = (classify schema order).map (·.withoutGroups) := by
  have found : order.filterMap schema.withoutGroups.struct? =
      (order.filterMap schema.struct?).map (·.withoutGroup) := by
    rw [List.map_filterMap]
    exact List.filterMap_congr fun name _ => schema.struct?_withoutGroups name
  rw [classify, found, List.mapM_map]
  refine (congrArg (· >>= _) (Except.mapM_map (Classify.struct_withoutGroups schema) _)).trans ?_
  rw [Except.map_bind, classify]
  cases (order.filterMap schema.struct?).mapM (Classify.struct schema) <;> rfl

/-! ### Emitted text -/

namespace Emit

/-- No target writes labels. -/
theorem Target.steps_withoutGroups (target : Target) (schema : ClassifiedSchema)
    (options : Options) :
    target.steps schema.withoutGroups options = target.steps schema options := by
  cases target with
  | definitions =>
    simp only [steps, Definitions.steps, ClassifiedSchema.withoutGroups, List.flatMap_map]
    rfl
  | reflection =>
    simp only [steps, Reflection.steps, ClassifiedSchema.withoutGroups, List.flatMap_map]
    rfl
  | packedCodec => exact congrArg (_ ++ ·) (List.flatMap_map ..)
  | fileCodec => exact congrArg (_ ++ ·) (List.flatMap_map ..)
  | validators => exact congrArg (_ ++ ·) (List.flatMap_map ..)

/-- No target writes down the group of a record. -/
theorem Target.emit_withoutGroups (target : Target) (schema : ClassifiedSchema)
    (options : Options) : target.emit schema.withoutGroups options = target.emit schema options :=
  congrArg render (target.steps_withoutGroups schema options)

end Emit

end TagSchema
