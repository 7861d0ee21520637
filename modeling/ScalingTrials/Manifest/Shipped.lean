/-!
The manifest of a scaling group that belongs to the suite. Values that may look like something other
than text stand between quotes.
-/

namespace ScalingTrials.Manifest

/-- The text of the template. -/
def shipped : String :=
  "apiVersion: autoscaling.services.k8s.aws/v1alpha1\n" ++
  "kind: AutoScalingGroup\n" ++
  "metadata:\n" ++
  "  name: $ASG_NAME\n" ++
  "spec:\n" ++
  "  autoScalingGroupName: $ASG_NAME\n" ++
  "  minSize: 0\n" ++
  "  maxSize: 2\n" ++
  "  launchTemplate:\n" ++
  "    launchTemplateID: \"$LAUNCH_TEMPLATE_ID\"\n" ++
  "    version: \"$LAUNCH_TEMPLATE_VERSION\"\n" ++
  "  vpcZoneIdentifier: \"$VPC_ZONE_IDENTIFIER\"\n"

end ScalingTrials.Manifest
