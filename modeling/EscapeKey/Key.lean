/-! Keys, known by their input-event codes. -/

namespace EscapeKey

structure Key where
  code : UInt16
deriving DecidableEq, Repr, Inhabited

namespace Key

def esc : Key := ⟨1⟩
def grave : Key := ⟨41⟩
def leftCtrl : Key := ⟨29⟩
def leftShift : Key := ⟨42⟩
def leftAlt : Key := ⟨56⟩
def leftMeta : Key := ⟨125⟩
def rightCtrl : Key := ⟨97⟩
def rightShift : Key := ⟨54⟩
def rightAlt : Key := ⟨100⟩
def rightMeta : Key := ⟨126⟩

end Key

end EscapeKey
