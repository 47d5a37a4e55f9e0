import StreamPlan.Text.Class

set_option autoImplicit false

namespace StreamPlan.Text

def trimStart (cs : List Char) : List Char := cs.dropWhile isBlank

def trimEnd (cs : List Char) : List Char := (cs.reverse.dropWhile isBlank).reverse

def trim (text : String) : String := String.ofList (trimEnd (trimStart text.toList))

def isAllBlank (text : String) : Bool := text.toList.all isBlank

end StreamPlan.Text
