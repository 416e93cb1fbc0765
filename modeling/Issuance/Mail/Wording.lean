/-!
The wording of the message that goes with a certificate.
-/

namespace Issuance
namespace Mail

def certificateSubject (eventTitle : String) : String :=
  "Your certificate for " ++ eventTitle

/-- The body. A message of the sender takes the place of the congratulation. -/
def certificateBody (participant eventTitle code url : String) (message : Option String) :
    String :=
  let congratulation := "Congratulations! Your certificate for " ++ eventTitle ++ " is ready."
  let intro := match message with
    | some text => if text.isEmpty then congratulation else text
    | none => congratulation
  "Hello " ++ participant ++ ",\n\n" ++ intro ++ "\n\n"
    ++ "Verification code: " ++ code ++ "\n"
    ++ "Verify online: " ++ url ++ "\n\n"
    ++ "Your certificate is attached to this message.\n"

end Mail
end Issuance
