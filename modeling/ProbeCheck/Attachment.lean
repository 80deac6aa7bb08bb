import ProbeCheck.Text.Order

namespace ProbeCheck

structure Attachment where
  point : Text
  mechanism : Text
deriving DecidableEq, Repr

namespace Attachment

def separator : Text := ", "

def descriptor (attachment : Attachment) : Text :=
  attachment.point ++ separator ++ attachment.mechanism

end Attachment
end ProbeCheck
