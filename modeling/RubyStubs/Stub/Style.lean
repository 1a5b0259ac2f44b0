import RubyStubs.Text.Blank

namespace RubyStubs

/-- Sigs with at least `breakParams` parameters are split over several lines, each level is
indented by `tabSize` blanks, and declarations may be sorted by name. Neither number need be
positive. -/
structure Style where
  breakParams : Int := 4
  tabSize : Int := 2
  sorted : Bool := false
  deriving DecidableEq, Repr

namespace Style

def indented (st : Style) (level : Int) (text : String) : String :=
  Text.blanks (level * st.tabSize) ++ text

end Style
end RubyStubs
