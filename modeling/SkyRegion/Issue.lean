import SkyRegion.Text.Basic

/-! What is wrong with a line. A complaint is a cause; an issue is the complaint as it is reported, with
the line and the shape it concerns. -/

namespace SkyRegion

open Text

inductive IssueKind where
  | frame
  | syntactic
  | format
  | conversion
  | unsupported
  deriving DecidableEq

namespace IssueKind

def all : List IssueKind := [.frame, .syntactic, .format, .conversion, .unsupported]

def name : IssueKind → Text
  | .frame => "frame".toList
  | .syntactic => "syntax".toList
  | .format => "format".toList
  | .conversion => "conversion".toList
  | .unsupported => "unsupported".toList

def ofName? (name : Text) : Option IssueKind := all.find? (·.name = name)

end IssueKind

/-- Every complaint names the frame keyword or the shape it is about. -/
inductive Complaint where
  | unsupportedFrame (keyword : Text)
  | wrongCount (shape : Text)
  | unpairedVertices
  | tooFewVertices
  | unsupportedForm (shape : Text)
  | unsupportedShape (description : Text)
  | notNumeric (shape token : Text)
  | unknownUnit (shape token : Text)
  | notQuantity (shape token : Text)
  | notPlaced (shape : Text)
  deriving DecidableEq

namespace Complaint

def kind : Complaint → IssueKind
  | .unsupportedFrame _ => .frame
  | .wrongCount _ => .syntactic
  | .unpairedVertices => .syntactic
  | .tooFewVertices => .syntactic
  | .unsupportedForm _ => .unsupported
  | .unsupportedShape _ => .unsupported
  | .notNumeric .. => .format
  | .unknownUnit .. => .format
  | .notQuantity .. => .format
  | .notPlaced _ => .conversion

def message : Complaint → Text
  | .unsupportedFrame keyword => "coord sys ".toList ++ keyword ++ " not supported.".toList
  | .wrongCount shape => shape ++ " syntax error.".toList
  | .unpairedVertices => "polygon syntax error, odd number of arguments.".toList
  | .tooFewVertices => "polygon syntax error, at least 3 vertices required.".toList
  | .unsupportedForm shape => "Unsupported ".toList ++ shape ++ " definition.".toList
  | .unsupportedShape description => "DS9 ".toList ++ description ++ " not supported.".toList
  | .notNumeric shape token =>
    shape ++ " invalid parameter ".toList ++ token ++ ", not a numeric value.".toList
  | .unknownUnit shape token => shape ++ " invalid parameter unit: ".toList ++ token ++ ".".toList
  | .notQuantity shape token => "Invalid ".toList ++ shape ++ " parameter: ".toList ++ token ++ ".".toList
  | .notPlaced shape => "Failed to apply ".toList ++ shape ++ " to image.".toList

end Complaint

structure Issue where
  line : Int
  shape : Text
  kind : IssueKind
  message : Text
  deriving DecidableEq

namespace Issue

def ofComplaint (line : Int) (shape : Text) (complaint : Complaint) : Issue :=
  ⟨line, shape, complaint.kind, complaint.message⟩

/-- All messages, each on a line of its own. -/
def report (issues : List Issue) : Text := issues.flatMap fun issue => issue.message ++ ['\n']

end Issue
end SkyRegion
