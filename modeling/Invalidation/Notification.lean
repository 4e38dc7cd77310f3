import Invalidation.Topic

/-!
# Notifications

A notification is a topic, the kind of the entities it is about and a payload of the topic's
form. A topic of a single kind pins the kind, and the type keeps that, so a notification on a
bound topic always has the kind that its topic names.

Source: `Notification` and the classes that derive from it.
-/

set_option autoImplicit false

namespace Invalidation

/-- A topic admits every kind unless it is pinned to one. -/
def Topic.Admits (topic : Topic) (kind : Kind) : Prop :=
  ∀ pinned, topic.pinned? = some pinned → kind = pinned

structure Notification where
  topic : Topic
  kind : Kind
  payload : Payload topic.form
  admitted : topic.Admits kind
  deriving DecidableEq

namespace Notification

def change? (notification : Notification) : Option Change := notification.topic.change?

theorem kind_of_pinned {notification : Notification} {kind : Kind}
    (h : notification.topic.pinned? = some kind) : notification.kind = kind :=
  notification.admitted kind h

end Notification

end Invalidation
