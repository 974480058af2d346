import TrustGate.Flow
import TrustGate.Text.Template

/-!
# Prompts

The two ways to ask the user: a dialog, for a connection that the user started,
and a notification, for one in the background. Both are built from a flow and
carry the name of its network, so that an answer tells for which flow it was
given.
-/

namespace TrustGate

inductive DialogChoice
  | positive
  | negative
  | neutral
  | cancelled
deriving Repr, DecidableEq

inductive NotificationAction
  /-- The notification itself was tapped. -/
  | tap
  | accept
  | reject
deriving Repr, DecidableEq

inductive ResponseAction
  | accept
  | reject
  /-- To be shown the dialog. -/
  | review
deriving Repr, DecidableEq

inductive ResponseSource
  | dialog
  | notification
deriving Repr, DecidableEq

structure Response where
  /-- The network of the prompt, if it is known. -/
  ssid? : Option String
  action : ResponseAction
  source : ResponseSource
deriving Repr, DecidableEq

structure Dialog where
  ssid : String
  policy : TrustPolicy
  title : String
  message : List String
  helpLink? : Option String
  positiveLabel : String
  negativeLabel : String
deriving Repr, DecidableEq

/-- The response to a choice; all but the positive one reject. -/
def Dialog.respond (dialog : Dialog) (choice : DialogChoice) : Response where
  ssid? := some dialog.ssid
  action := if choice = .positive then .accept else .reject
  source := .dialog

inductive NotificationTap
  | review
  /-- Opens a page; the flow is not concerned. -/
  | openLink (link : String)
deriving Repr, DecidableEq

structure NotificationButton where
  label : String
  action : NotificationAction
deriving Repr, DecidableEq

structure Notification where
  ssid : String
  policy : TrustPolicy
  title : String
  message : String
  tap : NotificationTap
  buttons : List NotificationButton
deriving Repr, DecidableEq

def Notification.offers (notification : Notification) (action : NotificationAction) : Bool :=
  notification.buttons.any (·.action = action)

/-- What an action on a notification asks for; a tap that opens a page and a button that is not
there ask for nothing. -/
def Notification.route? (notification : Notification) :
    NotificationAction → Option ResponseAction
  | .tap =>
      match notification.tap with
      | .review => some .review
      | .openLink _ => none
  | .accept => if notification.offers .accept then some .accept else none
  | .reject => if notification.offers .reject then some .reject else none

def Notification.respond? (notification : Notification) (action : NotificationAction) :
    Option Response :=
  (notification.route? action).map fun routed => ⟨some notification.ssid, routed, .notification⟩

inductive Prompt
  | dialog (content : Dialog)
  | notification (content : Notification)
deriving Repr, DecidableEq

def Prompt.ssid : Prompt → String
  | .dialog content => content.ssid
  | .notification content => content.ssid

def Prompt.policy : Prompt → TrustPolicy
  | .dialog content => content.policy
  | .notification content => content.policy

def Prompt.isDialog : Prompt → Bool
  | .dialog _ => true
  | .notification _ => false

/-! ## Building prompts -/

/-- How many digits of a fingerprint a dialog shows. -/
def fingerprintPreviewLength : Nat :=
  16

/-- A labelled line, absent if there is nothing to say. -/
def optionalLine (label value : String) : List String :=
  if value.isEmpty then [] else [label ++ value]

def PendingCertificate.lines (pending : PendingCertificate) : List String :=
  ["Server name: " ++ pending.subject.commonName, "Issuer name: " ++ pending.issuer.commonName] ++
    optionalLine "Organization: " pending.subject.organization ++
    optionalLine "Contact: " pending.subject.email ++
    ["SHA-256 fingerprint: " ++ String.ofList
      (pending.certificate.fingerprint.toList.take fingerprintPreviewLength)]

def learnMore : String :=
  "Learn more:"

def tofuDialog (ssid : String) (pending : PendingCertificate) : Dialog where
  ssid
  policy := .tofu
  title := "Certificate needs review"
  message :=
    "Review the server certificate before connecting. Only connect if you trust it." :: "" ::
      pending.lines
  helpLink? := none
  positiveLabel := "Connect"
  negativeLabel := "Don't connect"

def legacyDialog (ssid helpLink : String) : Dialog where
  ssid
  policy := .legacy
  title := "Network without certificate validation"
  message := [
    Text.fill ("The network \x7b\x7d has no certificate that proves its identity. " ++
      "Connecting may expose your credentials.") ssid,
    learnMore]
  helpLink? := some helpLink
  positiveLabel := "Connect anyway"
  negativeLabel := "Don't connect"

/-- The dialog of a flow. There is none about a certificate that is not there. -/
def Dialog.ofFlow? (connection : PendingConnection) (certificate? : Option PendingCertificate)
    (helpLink : String) : Option Dialog :=
  match connection.policy with
  | .tofu => certificate?.map (tofuDialog connection.identity.ssid)
  | .legacy => some (legacyDialog connection.identity.ssid helpLink)

def tofuNotification (ssid : String) : Notification where
  ssid
  policy := .tofu
  title := "Certificate needs review"
  message := Text.fill "Review the certificate of \x7b\x7d before connecting." ssid
  tap := .review
  buttons := [⟨"Review", .tap⟩]

def legacyNotification (ssid helpLink : String) : Notification where
  ssid
  policy := .legacy
  title := "Unverified network"
  message := Text.fill "\x7b\x7d has no certificate. Connect anyway?" ssid
  tap := .openLink helpLink
  buttons := [⟨"Don't connect", .reject⟩, ⟨"Connect anyway", .accept⟩]

def Notification.ofFlow (connection : PendingConnection) (helpLink : String) : Notification :=
  match connection.policy with
  | .tofu => tofuNotification connection.identity.ssid
  | .legacy => legacyNotification connection.identity.ssid helpLink

end TrustGate
