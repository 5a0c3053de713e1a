import SessionGate.Rehearsal.Schedule

/-! A publisher over a scripted channel, used by itself. -/

namespace SessionGate

/-- A publisher with its policy, and the schedule on which its channel takes its time. -/
structure PublishingDesk where
  policy : RetryPolicy
  schedule : Schedule (Except BrokerError Unit)

namespace PublishingDesk

/-- A publisher that has not been used. -/
def ofScript (policy : RetryPolicy) (script : ChannelScript) : PublishingDesk :=
  ⟨policy, .ofWorld { World.initial with script }⟩

/-- Carries a computation out; nothing comes of one that waits forever. -/
def carryOut (desk : PublishingDesk) (program : PublisherProgram (Except BrokerError Unit)) :
    Option (Except BrokerError Unit) × PublishingDesk :=
  let (result, schedule) := desk.schedule.perform program.staged.unhurried
  (result, { desk with schedule })

/-- Publishes a message. -/
def publish (desk : PublishingDesk) (exchange body : String) :
    Option (Except BrokerError Unit) × PublishingDesk :=
  desk.carryOut (Publisher.publish desk.policy exchange body)

/-- Closes the channel. -/
def close (desk : PublishingDesk) : Option (Except BrokerError Unit) × PublishingDesk :=
  desk.carryOut Publisher.close

/-- What has been seen since it was last asked for. -/
def takeEvents (desk : PublishingDesk) : List Event × PublishingDesk :=
  let (seen, schedule) := desk.schedule.takeEvents
  (seen, { desk with schedule })

end PublishingDesk

end SessionGate
