import OtaRobot.Rollout.RolledBack
import OtaRobot.Rollout.Accounting
import OtaRobot.Rollout.Completion
import OtaRobot.Rollout.Canary
import OtaRobot.Rollout.DispatchRace
import OtaRobot.Rollout.ErrorCallback
import OtaRobot.Rollout.CanaryStop
import OtaRobot.Agent.RollbackFinality
import OtaRobot.Attribution
import OtaRobot.Rollout.FailingStatements
import OtaRobot.Rollout.RoundTrip
import OtaRobot.Rollout.ActiveRow
import OtaRobot.Rollout.Population
import OtaRobot.Mqtt.Isolation
import OtaRobot.Firmware.Published
import OtaRobot.Firmware.Authenticity
import OtaRobot.Auth.Lockout
import OtaRobot.Rollout.Partition
import OtaRobot.Rollout.PhaseOrder
import OtaRobot.Rollout.Retry
import OtaRobot.Firmware.Deletion
import OtaRobot.Agent.Verdict
import OtaRobot.Agent.Busy
import OtaRobot.Mqtt.Connection
import OtaRobot.Mqtt.Dispatch
import OtaRobot.Firmware.Signing
import OtaRobot.Auth.SingleUse
import OtaRobot.Redelivery
import OtaRobot.Compatibility
import OtaRobot.Firmware.Resign
import OtaRobot.Config
import OtaRobot.Keys.TrustAnchor
import OtaRobot.Frontend.Polling
import OtaRobot.Frontend.Session
import OtaRobot.Broker
import OtaRobot.Agent.Rest
import OtaRobot.Auth.Credentials
import OtaRobot.Agent.Battery
import OtaRobot.Origins
import OtaRobot.Payloads
import OtaRobot.Firmware.Bucket
import OtaRobot.Frontend.LaunchPage
import OtaRobot.Rollout.Acceptance
