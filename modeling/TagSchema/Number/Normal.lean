import TagSchema.Number.MathType

/-!
# Unit length

Vectors, quaternions and the vectors of planes ought to have length one. The length is measured in
double precision; normalizing divides by it in single precision.
-/

namespace TagSchema.MathType

/-- The largest difference between one and a length that still counts as unit length. -/
def normalTolerance : Float := 0.00001

/-- The single-precision number of a component. -/
def single (type : MathType) (word : type.component.Word) : Float32 :=
  Float32.ofBits word.toNat.toUInt32

/-- The components of the part of unit length. -/
def normalPart (type : MathType) (value : type.Value) : List type.component.Word :=
  value.toList.take type.normalCount

/-- The length of that part. -/
def scale (type : MathType) (value : type.Value) : Float :=
  ((type.normalPart value).foldl
    (fun sum word => let x := type.component.toFloat word; sum + x * x) 0).sqrt

/-- Whether the length is one, near enough. -/
def isNormalized (type : MathType) (value : type.Value) : Bool :=
  decide ((1 - type.scale value).abs < normalTolerance)

/-- The value with its part of unit length divided by its length, or zeroed when it has none. -/
def normalized (type : MathType) (value : type.Value) : type.Value :=
  let distance := ((type.normalPart value).foldl
    (fun sum word => let x := type.single word; sum + x * x) 0).sqrt
  let factor := 1 / distance
  let divide (word : type.component.Word) : type.component.Word :=
    BitVec.ofNat _ (if distance == 0 then 0 else (type.single word * factor).toBits.toNat)
  value.mapFinIdx fun i word _ => if i < type.normalCount then divide word else word

/-- The part of unit length and its length, in words. -/
def describeNormal (type : MathType) (value : type.Value) : String :=
  "(" ++ String.intercalate ", "
      ((type.normalPart value).map (type.component.render .plain)) ++
    ") -> " ++ DecimalStyle.plain.render64 (.ofFloat (type.scale value))

/-- Whether the length is not one. Mending normalizes the value. -/
def fixNormal (type : MathType) (fix : Bool) (value : type.Value) : Bool × type.Value :=
  if type.isNormalized value then (false, value)
  else (true, if fix then type.normalized value else value)

end TagSchema.MathType
