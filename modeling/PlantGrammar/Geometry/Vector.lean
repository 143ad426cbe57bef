/-!
# Vectors and matrices

Points, directions and linear maps of space over binary32 numbers. Every operation rounds, so the
order of the additions in `Mat3.apply` is part of its meaning.
-/

namespace PlantGrammar

/-- A point or direction. -/
structure Vec3 where
  x : Float32
  y : Float32
  z : Float32
  deriving DecidableEq

namespace Vec3

def zero : Vec3 := ⟨0, 0, 0⟩

/-- The unit vector of the third axis. -/
def unitZ : Vec3 := ⟨0, 0, 1⟩

def add (v w : Vec3) : Vec3 := ⟨v.x + w.x, v.y + w.y, v.z + w.z⟩

/-- The product of corresponding components. -/
def mul (v w : Vec3) : Vec3 := ⟨v.x * w.x, v.y * w.y, v.z * w.z⟩

def scale (v : Vec3) (r : Float32) : Vec3 := ⟨v.x * r, v.y * r, v.z * r⟩

def divide (v : Vec3) (r : Float32) : Vec3 := ⟨v.x / r, v.y / r, v.z / r⟩

instance : Add Vec3 := ⟨add⟩

instance : Mul Vec3 := ⟨mul⟩

/-- The components in order. -/
def toList (v : Vec3) : List Float32 := [v.x, v.y, v.z]

end Vec3

/-- A vector with a fourth component, which is 1 for points and 0 for directions. -/
structure Vec4 where
  x : Float32
  y : Float32
  z : Float32
  w : Float32
  deriving DecidableEq

namespace Vec4

/-- The components in order. -/
def toList (v : Vec4) : List Float32 := [v.x, v.y, v.z, v.w]

end Vec4

/-- A linear map, given by the images of the three unit vectors. -/
structure Mat3 where
  xAxis : Vec3
  yAxis : Vec3
  zAxis : Vec3
  deriving DecidableEq

namespace Mat3

def identity : Mat3 := ⟨⟨1, 0, 0⟩, ⟨0, 1, 0⟩, ⟨0, 0, 1⟩⟩

/-- The image of a vector: the multiples of the first two axes are added first. -/
def apply (m : Mat3) (v : Vec3) : Vec3 :=
  m.xAxis.scale v.x + m.yAxis.scale v.y + m.zAxis.scale v.z

/-- The entries, axis by axis. -/
def toList (m : Mat3) : List Float32 := m.xAxis.toList ++ m.yAxis.toList ++ m.zAxis.toList

end Mat3

end PlantGrammar
