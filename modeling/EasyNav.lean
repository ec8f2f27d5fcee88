import EasyNav.Blackboard
import EasyNav.BlockedComponents
import EasyNav.BoundedQueues
import EasyNav.ConfiguredSensors
import EasyNav.CycleLateness
import EasyNav.ExactFrequency
import EasyNav.FeedbackThrottle
import EasyNav.FinalInfo
import EasyNav.FusedPoints
import EasyNav.FusionStamps
import EasyNav.GeometryConfiguration
import EasyNav.GoalsRevision
import EasyNav.Heartbeats
import EasyNav.KeyTypes
import EasyNav.LaserScans
import EasyNav.LeftOutPerceptions
import EasyNav.LifecycleAgreement
import EasyNav.LimitRestoration
import EasyNav.LimitedSpeeds
import EasyNav.SilentController
import EasyNav.MissionAnnouncements
import EasyNav.MissionCompletion
import EasyNav.MissionDelivery
import EasyNav.MissionHold
import EasyNav.NavStateMirror
import EasyNav.ParameterFreezing
import EasyNav.PauseAgreement
import EasyNav.PausedRobot
import EasyNav.PlannedPaths
import EasyNav.PluginLifetimes
import EasyNav.PluginSwitching
import EasyNav.PollingTimes
import EasyNav.PostFusionFilters
import EasyNav.ProcessTermination
import EasyNav.PythonClient
import EasyNav.RateReports
import EasyNav.RetainedClouds
import EasyNav.RtReports
import EasyNav.SafeLimits
import EasyNav.SafetyModeRefusal
import EasyNav.SavedDumps
import EasyNav.ScheduleRestarts
import EasyNav.SensorReports
import EasyNav.SmootherConvergence
import EasyNav.StopSilence
import EasyNav.TransformExtrapolation
import EasyNav.UnsetParameters
