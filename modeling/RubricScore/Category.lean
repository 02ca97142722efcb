/-!
# Categories

The two kinds of components that a rubric lists.
-/

namespace RubricScore

/-- A kind of component. -/
inductive Category where
  /-- A primitive of the kernel. -/
  | kernelPrimitive
  /-- A service of the platform. -/
  | platformService
deriving DecidableEq

namespace Category

/-- Name of a category in messages and headings. -/
def label : Category → String
  | .kernelPrimitive => "Kernel Primitives"
  | .platformService => "OS Platform Services"

/-- Short name of a category in task lists. -/
def shortLabel : Category → String
  | .kernelPrimitive => "Kernel Primitives"
  | .platformService => "OS Services"

/-- Key of a category in task groups. -/
def key : Category → String
  | .kernelPrimitive => "kernel"
  | .platformService => "os_service"

/-- The categories in the order of every document. -/
def all : List Category :=
  [.kernelPrimitive, .platformService]

end Category

end RubricScore
